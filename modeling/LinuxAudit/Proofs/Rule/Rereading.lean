import Mathlib
import LinuxAudit.Proofs.Rule.Clauses
import LinuxAudit.Proofs.Rule.Selecting

/-! A drafted rule is read back from its clauses: `drafted_reread`. The expressions lay out the same
entries one by one, `exists_run_expressions`; there is room for each, since there was room for all of
them in the drafted rule. They name the numbering, so that the syscall clauses that follow bring
nothing in, `exists_run_selections`. -/

namespace LinuxAudit

/-- Nothing of a rule gets lost when it is written: no predicate is on access, all texts are UTF-8,
and no operator reaches into the text behind it. -/
structure Rule.Legible (rule : Rule) : Prop where
  access : ∀ p ∈ rule.predicates, p.field ≠ .access
  texts : ∀ s ∈ rule.strings, ∃ text, Utf8.encode text = s.2
  operators : ∀ p bytes, (p, .text bytes) ∈ rule.operands →
    p.operator = .bitMask ∨ p.operator = .lessThan ∨ p.operator = .greaterThan →
      bytes.head? ≠ some 0x3D

namespace Draft

variable {abi : Abi}

/-! ### Entries of drafted rules -/

/-- A step adds the entry that it says, or entries that name the numbering. -/
theorem mem_entries_apply {sketch : Sketch} {step : Step} {e : Entry}
    (he : e ∈ (sketch.apply abi step).entries) :
    e ∈ sketch.entries ∨
      (∃ p ∈ abi.maskPredicates, e = ⟨p.field, p.operator, .number p.value⟩) ∨
      step.addition? abi = some e := by
  cases step with
  | setList list => exact .inl he
  | setAction action => exact .inl he
  | select selection =>
      rcases List.mem_append.1 he with he | he
      · exact .inl he
      · rw [Sketch.named] at he
        split at he
        · obtain ⟨p, hp, rfl⟩ := List.mem_map.1 he
          exact .inr (.inl ⟨p, List.mem_of_mem_filter hp, rfl⟩)
        · cases he
  | _ =>
      rcases List.mem_append.1 he with he | he
      · exact .inl he
      · exact .inr (.inr (Option.mem_toList.1 he))

/-- What holds of the entries that steps add, and of those that name the numbering, holds of all. -/
theorem forall_entries_foldl {P : Entry → Prop} {sketch : Sketch} {steps : List Step}
    (hnamed : ∀ p ∈ abi.maskPredicates, P ⟨p.field, p.operator, .number p.value⟩)
    (hsteps : ∀ step ∈ steps, ∀ e, step.addition? abi = some e → P e)
    (hsketch : ∀ e ∈ sketch.entries, P e) :
    ∀ e ∈ (steps.foldl (Sketch.apply abi) sketch).entries, P e := by
  induction steps generalizing sketch with
  | nil => exact hsketch
  | cons step steps ih =>
      refine ih (fun s hs => hsteps s (List.mem_cons_of_mem _ hs)) fun e he => ?_
      rcases mem_entries_apply he with he | ⟨p, hp, rfl⟩ | hentry
      · exact hsketch e he
      · exact hnamed p hp
      · exact hsteps step List.mem_cons_self e hentry

/-- Each accepted step has succeeded on the draft that it met. -/
theorem exists_succeeds_of_mem_accepted {draft : Draft} {steps : List Step} {step : Step}
    (h : step ∈ accepted abi draft steps) : ∃ draft', Succeeds (step.edit abi) draft' := by
  induction steps generalizing draft with
  | nil => cases h
  | cons first steps ih =>
      rw [accepted, attempt] at h
      cases hrun : (first.edit abi).run draft with
      | error e draft' =>
          rw [hrun] at h
          exact ih h
      | ok a draft' =>
          rw [hrun] at h
          rcases List.mem_cons.1 h with rfl | h
          · exact ⟨draft, succeeds_of_run hrun⟩
          · exact ih h

/-- The text of an entry of a drafted rule is not too long for its field. -/
theorem stored_le_of_mem_sketched {steps : List Step} {e : Entry}
    (he : e ∈ (sketched abi steps).entries) : e.stored.length ≤ e.field.maxTextLength := by
  refine forall_entries_foldl (P := fun e => e.stored.length ≤ e.field.maxTextLength) ?_ ?_ ?_ e he
  · exact fun p hp => Nat.zero_le _
  · intro step hstep e hentry
    obtain ⟨draft, hsucceeds⟩ := exists_succeeds_of_mem_accepted hstep
    exact hsucceeds.stored_le hentry
  · exact fun e he => absurd he List.not_mem_nil

/-! ### Expressions and selections one after the other -/

/-- A rule with entries and no syscalls. -/
def laidOut (list : FilterList) (action : Action) (entries : List Entry) : Rule where
  list
  action
  predicates := entries.map Entry.predicate
  trailer := entries.flatMap Entry.stored

theorem laidOut_append {list : FilterList} {action : Action} (entries : List Entry) (e : Entry) :
    laidOut list action (entries ++ [e]) = (laidOut list action entries).withEntry e := by
  simp [laidOut, Rule.withEntry]

/-- Expressions lay out the entries that they say, as long as there is room for all. -/
theorem exists_run_expressions {list : FilterList} {action : Action} {front entries : List Entry}
    {draft : Draft} (hdraft : draft.rule = laidOut list action front)
    (hread : ∀ e ∈ entries, (Step.addExpression e.expression).addition? abi = some e)
    (htext : ∀ e ∈ entries, e.stored.length ≤ e.field.maxTextLength)
    (hfields : (front ++ entries).length ≤ maxFields)
    (htrailer : ((front ++ entries).flatMap Entry.stored).length ≤ maxTrailerLength) :
    ∃ draft', ((entries.map (.addExpression ∘ Entry.expression)).forM (Step.edit abi)).run draft =
        .ok () draft' ∧ draft'.rule = laidOut list action (front ++ entries) := by
  -- The entries that are laid out already move over to the front, which the bounds count with.
  induction entries generalizing front draft with
  | nil => exact ⟨draft, rfl, by rw [hdraft, List.append_nil]⟩
  | cons e entries ih =>
      have hroom : e.HasRoom draft.rule := by
        rw [hdraft]
        refine ⟨?_, htext e List.mem_cons_self, ?_⟩
        · rw [List.length_append, List.length_cons] at hfields
          rw [laidOut, List.length_map]
          omega
        · rw [List.flatMap_append, List.flatMap_cons, List.length_append, List.length_append]
            at htrailer
          show e.stored.length ≤ maxTrailerLength - (front.flatMap Entry.stored).length
          omega
      have hsucceeds : Succeeds ((Step.addExpression e.expression).edit abi) draft :=
        succeeds_addExpression_iff.2 ⟨e, hread e List.mem_cons_self, hroom⟩
      obtain ⟨mid, hrun, heffect⟩ := hsucceeds.exists_effect
      have hmid : mid.rule = laidOut list action (front ++ [e]) := by
        rw [laidOut_append, ← hdraft]
        exact (heffect.eq_withEntry (hread e List.mem_cons_self)).2
      rw [List.append_cons] at hfields htrailer ⊢
      obtain ⟨draft', hrest, hdraft'⟩ :=
        ih hmid (fun e' he' => hread e' (List.mem_cons_of_mem e he'))
          (fun e' he' => htext e' (List.mem_cons_of_mem e he')) hfields htrailer
      exact ⟨draft', run_forM_cons_iff.2 ⟨mid, hrun, hrest⟩, hdraft'⟩

theorem brought_eq_nil {rule : Rule}
    (h : ∀ p ∈ abi.maskPredicates, ∃ q ∈ rule.predicates, q.field = p.field) :
    brought abi rule = [] := by
  rw [brought]
  split
  · refine List.filter_eq_nil_iff.2 fun p hp => ?_
    simpa using h p hp
  · rfl

/-- Syscall clauses select the numbers that they stand for. They change nothing else where the
numbering is named already. -/
theorem exists_run_selections {selections : List Selection} {draft : Draft}
    (hnamed : selections ≠ [] →
      ∀ p ∈ abi.maskPredicates, ∃ q ∈ draft.rule.predicates, q.field = p.field)
    (hfields : draft.rule.predicates.length ≤ maxFields)
    (hselectable : ∀ selection ∈ selections, selection.Selectable abi) :
    ∃ draft' syscalls, ((selections.map .select).forM (Step.edit abi)).run draft = .ok () draft' ∧
      draft'.rule = { draft.rule with syscalls } ∧
      ∀ n, syscalls.getLsbD n = true ↔ draft.rule.syscalls.getLsbD n = true ∨
        ∃ selection ∈ selections, n ∈ selection.numbers abi := by
  have hbrought (hne : selections ≠ []) : brought abi draft.rule = [] := brought_eq_nil (hnamed hne)
  have hopen (hne : selections ≠ []) : Succeeds (openMask abi) draft := by
    rw [succeeds_openMask_iff, hbrought hne]
    exact fun _ => hfields
  obtain ⟨draft', hrun⟩ := exists_run_selectEach_iff.2 ⟨hselectable, hopen⟩
  obtain ⟨syscalls, hsyscalls, hrule⟩ := rule_of_selectEach hrun
  refine ⟨draft', syscalls, hrun, ?_, hsyscalls⟩
  rw [hrule]
  by_cases hnil : selections = []
  · rw [if_pos hnil, List.append_nil]
  · rw [if_neg hnil, hbrought hnil, List.append_nil]

/-! ### Reading back -/

theorem head?_encode {text : String} (h : text.toList.head? = some '=') :
    (Utf8.encode text).head? = some 0x3D := by
  obtain ⟨rest, hrest⟩ := List.head?_eq_some_iff.1 h
  rw [Utf8.encode, hrest, List.flatMap_cons]
  rfl

/-- Each entry of a legible rule is legible. -/
theorem legible_entries {sketch : Sketch} {rule : Rule} (hdescribes : sketch.Describes rule)
    (h : rule.Legible) : ∀ e ∈ sketch.entries, e.Legible := by
  intro e he
  cases hdescribes.fits e he with
  | number hkind =>
      have hmem : _ ∈ rule.predicates := hdescribes.predicates ▸ List.mem_map_of_mem he
      exact .number (h.access _ hmem)
  | text hkind hlength =>
      rename_i field op bytes
      have hstring : (field, bytes) ∈ rule.strings := by
        rw [hdescribes.strings]
        exact List.mem_filterMap.2 ⟨_, he, rfl⟩
      have hoperand : (⟨field, op, UInt32.ofNat bytes.length⟩, .text bytes) ∈ rule.operands := by
        rw [Rule.operands, hdescribes.predicates, hdescribes.trailer,
          Predicate.operands_map_predicate hdescribes.fits]
        exact List.mem_map_of_mem he
      obtain ⟨text, rfl⟩ := h.texts _ hstring
      exact .text fun hgoes => h.operators _ _ hoperand hgoes.1 (head?_encode hgoes.2)

/-- The predicates of a rule are laid out from its expressions. -/
theorem exists_run_clauses_expressions (machine : Machine) {sketch : Sketch} {rule : Rule}
    (hdescribes : sketch.Describes rule) (hlimits : rule.WithinLimits) (hlegible : rule.Legible)
    (htext : ∀ e ∈ sketch.entries, e.stored.length ≤ e.field.maxTextLength) :
    ∃ draft, (([Step.setList rule.list, .setAction rule.action] ++
        rule.expressions.map Step.addExpression).forM (Step.edit machine.abi)).run {} =
          .ok () draft ∧
      draft.rule = { rule with syscalls := .none } := by
  have hlaid : laidOut rule.list rule.action sketch.entries = { rule with syscalls := .none } := by
    rw [laidOut, ← hdescribes.predicates, ← hdescribes.trailer]
  have hread (e : Entry) (he : e ∈ sketch.entries) :
      (Step.addExpression e.expression).addition? machine.abi = some e :=
    Entry.addition?_expression machine (hdescribes.fits e he)
      (legible_entries hdescribes hlegible e he)
  have hfields : ([] ++ sketch.entries).length ≤ maxFields := by
    simpa [hdescribes.predicates] using hlimits.fields
  have htrailer : (([] ++ sketch.entries).flatMap Entry.stored).length ≤ maxTrailerLength := by
    simpa [hdescribes.trailer] using hlimits.trailer
  have hempty : ({ rule := laidOut rule.list rule.action [] } : Draft).rule =
    laidOut rule.list rule.action [] := rfl
  obtain ⟨draft, hrun, hdraft⟩ := exists_run_expressions hempty hread htext hfields htrailer
  refine ⟨draft, ?_, hdraft.trans hlaid⟩
  rw [hdescribes.expressions, List.map_map]
  exact hrun

/-- The syscall clauses of a rule select its syscalls once its predicates are there. -/
theorem exists_run_clauses_selections (machine : Machine) {sketch : Sketch} {rule : Rule}
    (hdescribes : sketch.Describes rule) (hlimits : rule.WithinLimits)
    (hnames : sketch.NamesNumbering machine.abi) {draft : Draft}
    (hdraft : draft.rule = { rule with syscalls := .none }) :
    ∃ draft', (((rule.clauses machine.abi.syscallName?).selections.map
        (Step.select ∘ Selection.ofText)).forM (Step.edit machine.abi)).run draft = .ok () draft' ∧
      draft'.rule = rule := by
  rw [← List.map_map]
  generalize hselections : (rule.clauses machine.abi.syscallName?).selections.map
    Selection.ofText = selections
  have hmem (n : ℕ) : (∃ selection ∈ selections, n ∈ selection.numbers machine.abi) ↔
      rule.syscalls.getLsbD n = true := by
    rw [← hselections, ← rule.mem_numbers_clauses machine]
    simp only [List.mem_map, exists_exists_and_eq_and]
  have hselectable (selection : Selection) (hselection : selection ∈ selections) :
      selection.Selectable machine.abi := by
    refine ⟨?_, fun n hn => BitVec.lt_of_getLsbD ((hmem n).1 ⟨selection, hselection, hn⟩)⟩
    rw [← hselections] at hselection
    obtain ⟨text, htext, rfl⟩ := List.mem_map.1 hselection
    exact rule.nonempty_numbers_clauses machine htext
  have hnamed (hne : selections ≠ []) (p : Predicate) (hp : p ∈ machine.abi.maskPredicates) :
      ∃ q ∈ draft.rule.predicates, q.field = p.field := by
    obtain ⟨selection, hselection⟩ := List.exists_mem_of_ne_nil selections hne
    obtain ⟨n, hn⟩ := (hselectable selection hselection).nonempty
    have hselected : n ∈ sketch.syscalls :=
      (hdescribes.syscalls n).1 ((hmem n).1 ⟨selection, hselection, hn⟩)
    obtain ⟨e, he, hfield⟩ := hnames ⟨n, hselected⟩ p hp
    refine ⟨e.predicate, ?_, hfield⟩
    rw [hdraft]
    exact hdescribes.predicates ▸ List.mem_map_of_mem he
  have hfields : draft.rule.predicates.length ≤ maxFields := by
    rw [hdraft]
    exact hlimits.fields
  obtain ⟨draft', syscalls, hrun, hdraft', hsyscalls⟩ :=
    exists_run_selections hnamed hfields hselectable
  refine ⟨draft', hrun, ?_⟩
  have heq : syscalls = rule.syscalls := by
    apply BitVec.eq_of_getLsbD_eq
    intro n hn
    rw [Bool.eq_iff_iff, hsyscalls, hmem, hdraft]
    exact or_iff_right (SyscallSet.eq_none_iff.1 rfl n)
  rw [hdraft', hdraft, heq]

/-- A drafted rule, whatever the steps were and whether they failed, is written clause by clause, and
if it is legible, a fresh draft takes all of its clauses and ends as the same rule. -/
theorem drafted_reread (machine : Machine) (steps : List Step)
    (h : (drafted machine.abi steps).Legible) :
    ((drafted machine.abi steps).clauses machine.abi.syscallName?).line =
        (drafted machine.abi steps).line machine.abi.syscallName? ∧
    ∃ reread draft,
      ((drafted machine.abi steps).clauses machine.abi.syscallName?).steps? = some reread ∧
      (reread.forM (Step.edit machine.abi)).run {} = .ok () draft ∧
      draft.rule = drafted machine.abi steps := by
  have hmask := machine_maskPredicates machine
  have hlimits := drafted_withinLimits hmask steps
  have hdescribes := drafted_describes hmask steps
  have hnames := sketched_namesNumbering machine.abi steps
  have htext (e : Entry) (he : e ∈ (sketched machine.abi steps).entries) :=
    stored_le_of_mem_sketched he
  generalize drafted machine.abi steps = rule at *
  generalize sketched machine.abi steps = sketch at *
  obtain ⟨mid, hexpressions, hmid⟩ :=
    exists_run_clauses_expressions machine hdescribes hlimits h htext
  obtain ⟨draft, hselections, hdraft⟩ :=
    exists_run_clauses_selections machine hdescribes hlimits hnames hmid
  have hrun := run_forM_append_iff.2 ⟨mid, hexpressions, hselections⟩
  exact ⟨rule.line_clauses _, _, draft, rule.steps?_clauses _, hrun, hdraft⟩

/-- A rule of another architecture, with a text that starts like an operator. -/
def writtenSteps : List Step :=
  [.addExpression "arch=b32", .select (.number 5), .addExpression "exe!=/bin/\u00E9", .addKey "=k",
    .addExpression "uid>=1000"]

theorem drafted_reread_writtenSteps :
    (drafted Machine.x8664.abi writtenSteps).Legible ∧
    ∃ reread draft,
      ((drafted Machine.x8664.abi writtenSteps).clauses Machine.x8664.abi.syscallName?).steps? =
        some reread ∧
      (reread.forM (Step.edit Machine.x8664.abi)).run {} = .ok () draft ∧
      draft.rule = drafted Machine.x8664.abi writtenSteps ∧
      draft.rule.predicates = [⟨.arch, .equal, Arch.i386⟩, ⟨.executable, .notEqual, 7⟩,
        ⟨.key, .equal, 2⟩, ⟨.uid, .atLeast, 1000⟩] := by
  have hpredicates : (drafted Machine.x8664.abi writtenSteps).predicates =
      [⟨.arch, .equal, Arch.i386⟩, ⟨.executable, .notEqual, 7⟩, ⟨.key, .equal, 2⟩,
        ⟨.uid, .atLeast, 1000⟩] := by
    decide +kernel
  have hoperands : (drafted Machine.x8664.abi writtenSteps).operands =
      [(⟨.arch, .equal, Arch.i386⟩, .number Arch.i386),
        (⟨.executable, .notEqual, 7⟩, .text (Utf8.encode "/bin/\u00E9")),
        (⟨.key, .equal, 2⟩, .text (Utf8.encode "=k")),
        (⟨.uid, .atLeast, 1000⟩, .number 1000)] := by
    decide +kernel
  have hlegible : (drafted Machine.x8664.abi writtenSteps).Legible := by
    refine ⟨?_, ?_, ?_⟩
    · rw [hpredicates]
      decide
    · intro s hs
      rw [Rule.strings, hoperands] at hs
      rcases List.mem_cons.1 hs with rfl | hs
      · exact ⟨_, rfl⟩
      · rw [List.mem_singleton.1 hs]
        exact ⟨_, rfl⟩
    · intro p bytes hmem hop
      have hplain : ∀ q ∈ (drafted Machine.x8664.abi writtenSteps).operands,
          ¬(q.1.operator = .bitMask ∨ q.1.operator = .lessThan ∨ q.1.operator = .greaterThan) := by
        rw [hoperands]
        decide
      exact absurd hop (hplain _ hmem)
  obtain ⟨-, reread, draft, hreread, hrun, hdraft⟩ := drafted_reread .x8664 writtenSteps hlegible
  exact ⟨hlegible, reread, draft, hreread, hrun, hdraft, hdraft ▸ hpredicates⟩

end Draft

end LinuxAudit
