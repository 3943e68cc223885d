import Mathlib
import LinuxAudit.Abi.Machine
import LinuxAudit.Proofs.Rule.Selecting
import LinuxAudit.Settings.Basic

/-! What settings make of a rule. The syscalls are selected first and bring in the predicates that
name the numbering, and all that follows adds its entries behind them: `predicates_of_apply`. So an
architecture among the fields is the only one if no syscall is given, and else it stands behind that
of the machine: `archs_of_apply`. -/

namespace LinuxAudit

namespace Draft

variable {abi : Abi} {rule rule' : Rule} {draft draft' : Draft}

/-! ### Predicates that steps add -/

theorem Effect.predicates_of_addition {step : Step} (h : Effect abi rule step rule')
    (hstep : ∀ selection, step ≠ .select selection) :
    rule'.predicates = rule.predicates ++ (step.addition? abi).toList.map Entry.predicate := by
  cases h with
  | setList list => exact (List.append_nil _).symm
  | setAction action => exact (List.append_nil _).symm
  | select selection syscalls hnumbers hroom => exact absurd rfl (hstep selection)
  | entry e hentry hfits hroom htrailer =>
      rw [hentry]
      rfl

/-- Steps that select nothing add a predicate for each of their entries. -/
theorem predicates_of_additions {steps : List Step}
    (h : (steps.forM (Step.edit abi)).run draft = .ok () draft')
    (hsteps : ∀ step ∈ steps, ∀ selection, step ≠ .select selection) :
    draft'.rule.predicates =
      draft.rule.predicates ++ (steps.filterMap (Step.addition? abi)).map Entry.predicate := by
  induction steps generalizing draft with
  | nil =>
      cases h
      exact (List.append_nil _).symm
  | cons step steps ih =>
      obtain ⟨mid, hrun, hrest⟩ := run_forM_cons_iff.1 h
      obtain ⟨hstep, hsteps⟩ := List.forall_mem_cons.1 hsteps
      rw [ih hrest hsteps, (effect_of_run hrun).predicates_of_addition hstep, List.append_assoc,
        ← List.map_append]
      cases hentry : step.addition? abi with
      | none =>
          rw [List.filterMap_cons_none hentry]
          rfl
      | some e =>
          rw [List.filterMap_cons_some hentry]
          rfl

theorem exists_addition_of_run {steps : List Step} {expression : String}
    (h : (steps.forM (Step.edit abi)).run draft = .ok () draft')
    (hmem : .addExpression expression ∈ steps) :
    ∃ e, (Step.addExpression expression).addition? abi = some e := by
  induction steps generalizing draft with
  | nil => cases hmem
  | cons step steps ih =>
      obtain ⟨mid, hrun, hrest⟩ := run_forM_cons_iff.1 h
      rcases List.mem_cons.1 hmem with rfl | hmem
      · obtain ⟨e, hentry, -⟩ := succeeds_addExpression_iff.1 (succeeds_of_run hrun)
        exact ⟨e, hentry⟩
      · exact ih hrest hmem

end Draft

/-! ### Settings -/

namespace RuleSettings

variable {abi : Abi} {settings : RuleSettings} {draft : Draft}

/-- The edits behind the selections. Each adds an entry. -/
def additions (settings : RuleSettings) : List Draft.Step :=
  settings.trees.map .watchTree ++ settings.files.map .watchFile ++
    (settings.access.map .restrictAccess).toList ++ settings.expressions.map .addExpression ++
    (settings.key.map .addKey).toList

theorem steps_eq (settings : RuleSettings) : settings.steps =
    [.setList settings.list, .setAction settings.action] ++
      ((settings.syscalls.map Selection.name).map .select ++ settings.additions) := by
  simp only [steps, additions, List.append_assoc, List.map_map]

theorem not_select_of_mem_additions {step : Draft.Step} (h : step ∈ settings.additions)
    (selection : Selection) : step ≠ .select selection := by
  rintro rfl
  simp [additions] at h

theorem brought_empty (abi : Abi) (list : FilterList) (action : Action) :
    Draft.brought abi { list, action } = abi.maskPredicates := by
  rw [Draft.brought, if_pos rfl]
  exact List.filter_eq_self.2 fun p hp => rfl

/-- The predicates of a rule that settings make: what names the numbering if a syscall is given, and
then the entries. -/
theorem predicates_of_apply (h : (settings.apply abi).run {} = .ok () draft) :
    draft.rule.predicates =
      (if settings.syscalls = [] then [] else abi.maskPredicates) ++
        (settings.additions.filterMap (Draft.Step.addition? abi)).map Entry.predicate := by
  rw [apply, steps_eq] at h
  obtain ⟨targeted, htarget, hrest⟩ := Draft.run_forM_append_iff.1 h
  obtain ⟨selected, hselections, hadditions⟩ := Draft.run_forM_append_iff.1 hrest
  have htargeted : targeted.rule = { list := settings.list, action := settings.action } := by
    cases htarget
    rfl
  obtain ⟨syscalls, -, hselected⟩ := Draft.rule_of_selectEach hselections
  rw [Draft.predicates_of_additions hadditions fun step hstep =>
    not_select_of_mem_additions hstep, hselected, htargeted, brought_empty]
  simp only [List.map_eq_nil_iff, List.nil_append]

/-! ### Architectures -/

/-- Operator and value of an expression on the architecture. -/
def archTerm? (expression : String) : Option (Operator × String) := do
  let (name, op, value) ← Operator.split? expression
  let field ← Field.ofName? name
  if field = .arch then some (op, value) else none

/-- The entry on the architecture that operator and value say. -/
def ofArch? (abi : Abi) (term : Operator × String) : Option Entry :=
  (fieldOperand? abi .arch term.2).map (⟨.arch, term.1, .number ·⟩)

/-- The entry that a step adds if it is on the architecture. -/
def archAddition? (abi : Abi) (step : Draft.Step) : Option Entry :=
  (step.addition? abi).filter (·.field = .arch)

theorem addition?_of_archTerm? {expression : String} {term : Operator × String}
    (h : archTerm? expression = some term) :
    (Draft.Step.addExpression expression).addition? abi = ofArch? abi term := by
  obtain ⟨⟨name, op, value⟩, hsplit, h⟩ := Option.bind_eq_some_iff.1 h
  obtain ⟨field, hname, h⟩ := Option.bind_eq_some_iff.1 h
  obtain ⟨rfl, hterm⟩ := Option.ite_none_right_eq_some.1 h
  cases hterm
  simp [Draft.Step.addition?, hsplit, hname, Field.isString, ofArch?]

theorem field_ne_arch_of_addition? {expression : String} {e : Entry}
    (h : archTerm? expression = none)
    (hentry : (Draft.Step.addExpression expression).addition? abi = some e) : e.field ≠ .arch := by
  obtain ⟨⟨name, op, value⟩, hsplit, hentry⟩ := Option.bind_eq_some_iff.1 hentry
  obtain ⟨field, hname, hentry⟩ := Option.bind_eq_some_iff.1 hentry
  have hfield : field ≠ .arch := by
    rintro rfl
    simp [archTerm?, hsplit, hname] at h
  cases hkind : field.isString with
  | true =>
      simp only [hkind, if_true, Option.some.injEq] at hentry
      rwa [← hentry]
  | false =>
      simp only [hkind, Bool.false_eq_true, if_false] at hentry
      obtain ⟨number, -, rfl⟩ := Option.map_eq_some_iff.1 hentry
      exact hfield

theorem archAddition?_expression (abi : Abi) (expression : String) :
    archAddition? abi (.addExpression expression) =
      (archTerm? expression).bind (ofArch? abi) := by
  rw [archAddition?]
  cases hterm : archTerm? expression with
  | none =>
      refine Option.filter_eq_none_iff.2 fun e hentry => ?_
      simpa using field_ne_arch_of_addition? hterm hentry
  | some term =>
      rw [addition?_of_archTerm? hterm, Option.bind_some, ofArch?]
      cases fieldOperand? abi .arch term.2 with
      | none => rfl
      | some number => rfl

/-- Of all additions only the expressions can be on the architecture. -/
theorem filter_additions (abi : Abi) (settings : RuleSettings) :
    (settings.additions.filterMap (Draft.Step.addition? abi)).filter (·.field = .arch) =
      (settings.expressions.filterMap archTerm?).filterMap (ofArch? abi) := by
  have htrees : settings.trees.filterMap (archAddition? abi ∘ .watchTree) = [] :=
    List.filterMap_eq_nil_iff.2 fun path _ => rfl
  have hfiles : settings.files.filterMap (archAddition? abi ∘ .watchFile) = [] :=
    List.filterMap_eq_nil_iff.2 fun path _ => rfl
  have haccess : (settings.access.map Draft.Step.restrictAccess).toList.filterMap
      (archAddition? abi) = [] := by
    cases settings.access <;> rfl
  have hkey : (settings.key.map Draft.Step.addKey).toList.filterMap (archAddition? abi) = [] := by
    cases settings.key <;> rfl
  have hexpressions : archAddition? abi ∘ .addExpression =
      fun expression => (archTerm? expression).bind (ofArch? abi) :=
    funext (archAddition?_expression abi)
  rw [List.filter_filterMap]
  show settings.additions.filterMap (archAddition? abi) = _
  simp only [additions, List.filterMap_append, List.filterMap_map, htrees, hfiles, haccess, hkey,
    hexpressions, List.filterMap_filterMap, List.append_nil, List.nil_append]

/-- If one of the fields is an architecture, a rule that the settings make has that predicate, and in
front of it that of the machine if a syscall is given. So it is the only one if and only if no
syscall is given. -/
theorem archs_of_apply (machine : Machine) {settings : RuleSettings} {draft : Draft}
    {op : Operator} {value : String} (h : (settings.apply machine.abi).run {} = .ok () draft)
    (harch : settings.expressions.filterMap archTerm? = [(op, value)]) :
    ∃ number, fieldOperand? machine.abi .arch value = some number ∧
      draft.rule.predicates.filter (·.field = .arch) =
        (if settings.syscalls = [] then [] else [⟨.arch, .equal, machine.arch⟩]) ++
          [⟨.arch, op, number⟩] ∧
      (draft.rule.predicates.filter (·.field = .arch) = [⟨.arch, op, number⟩] ↔
        settings.syscalls = []) := by
  obtain ⟨expression, hmem, hterm⟩ :
      ∃ expression ∈ settings.expressions, archTerm? expression = some (op, value) := by
    rw [← List.mem_filterMap, harch]
    exact List.mem_singleton_self _
  obtain ⟨e, hentry⟩ := Draft.exists_addition_of_run h
    (show .addExpression expression ∈ settings.steps by simp [steps, hmem])
  rw [addition?_of_archTerm? hterm] at hentry
  obtain ⟨number, hnumber, rfl⟩ := Option.map_eq_some_iff.1 hentry
  have hadded : (settings.additions.filterMap (Draft.Step.addition? machine.abi)).filter
      (·.field = .arch) = [⟨.arch, op, .number number⟩] := by
    rw [filter_additions, harch, List.filterMap_cons_some hentry, List.filterMap_nil]
  have hnamed : (if settings.syscalls = [] then [] else machine.abi.maskPredicates).filter
      (·.field = .arch) =
        if settings.syscalls = [] then [] else [⟨.arch, .equal, machine.arch⟩] := by
    split <;> rfl
  have hpredicates : draft.rule.predicates.filter (·.field = .arch) =
      (if settings.syscalls = [] then [] else [⟨.arch, .equal, machine.arch⟩]) ++
        [⟨.arch, op, number⟩] := by
    rw [predicates_of_apply h, List.filter_append, hnamed, List.filter_map]
    exact congrArg (_ ++ ·.map Entry.predicate) hadded
  refine ⟨number, hnumber, hpredicates, ?_⟩
  rw [hpredicates]
  by_cases hnone : settings.syscalls = []
  · simp [hnone]
  · simp [hnone]

/-- A syscall and the other word size. -/
def otherArch : RuleSettings where
  list := .exit
  action := .always
  syscalls := ["open"]
  trees := []
  files := []
  expressions := ["arch=b32"]
  access := none
  key := none

theorem exists_run_otherArch :
    ∃ draft, (otherArch.apply Machine.x8664.abi).run {} = .ok () draft ∧
      draft.rule.predicates = [⟨.arch, .equal, Arch.x8664⟩, ⟨.arch, .equal, Arch.i386⟩] := by
  have hmade : (outcomeOf (otherArch.apply Machine.x8664.abi) {}).1.toBool = true := by
    decide +kernel
  have hpredicates : (outcomeOf (otherArch.apply Machine.x8664.abi) {}).2.rule.predicates =
      [⟨.arch, .equal, Arch.x8664⟩, ⟨.arch, .equal, Arch.i386⟩] := by
    decide +kernel
  rw [outcomeOf] at hmade hpredicates
  cases hrun : (otherArch.apply Machine.x8664.abi).run {} with
  | error e draft =>
      rw [hrun] at hmade
      cases hmade
  | ok a draft =>
      rw [hrun] at hpredicates
      exact ⟨draft, rfl, hpredicates⟩

theorem archs_of_apply_otherArch :
    otherArch.expressions.filterMap archTerm? = [(.equal, "b32")] ∧
    ∃ draft, (otherArch.apply Machine.x8664.abi).run {} = .ok () draft ∧
      draft.rule.predicates.filter (·.field = .arch) =
        [⟨.arch, .equal, Arch.x8664⟩, ⟨.arch, .equal, Arch.i386⟩] := by
  have hterm : otherArch.expressions.filterMap archTerm? = [(.equal, "b32")] := by decide +kernel
  obtain ⟨draft, hrun, -⟩ := exists_run_otherArch
  obtain ⟨number, hnumber, harchs, -⟩ := archs_of_apply .x8664 hrun hterm
  have hvalue : number = Arch.i386 := Option.some.inj (hnumber.symm.trans (by decide +kernel))
  have hgiven : otherArch.syscalls ≠ [] := List.cons_ne_nil _ _
  rw [if_neg hgiven, hvalue] at harchs
  exact ⟨hterm, draft, hrun, harchs⟩

/-- The architecture of a field is not always the only one. -/
theorem not_always_only_arch :
    ¬∀ (machine : Machine) (settings : RuleSettings) (draft : Draft) (op : Operator)
      (value : String) (number : UInt32),
      (settings.apply machine.abi).run {} = .ok () draft →
      settings.expressions.filterMap archTerm? = [(op, value)] →
      fieldOperand? machine.abi .arch value = some number →
      draft.rule.predicates.filter (·.field = .arch) = [⟨.arch, op, number⟩] := by
  intro hall
  obtain ⟨draft, hrun, hpredicates⟩ := exists_run_otherArch
  have honly := hall .x8664 otherArch draft .equal "b32" Arch.i386 hrun (by decide +kernel)
    (by decide +kernel)
  rw [hpredicates] at honly
  exact absurd honly (by decide)

end RuleSettings

end LinuxAudit
