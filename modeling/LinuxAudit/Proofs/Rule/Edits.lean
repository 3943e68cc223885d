import Mathlib
import LinuxAudit.Rule.Draft
import LinuxAudit.Proofs.Outcome

/-! What the edits of a draft do. `edit_ends` says it once for all edits: an edit that fails leaves
the draft alone, and one that succeeds has the effect of its step, an entry more or syscalls more.
From that follows `attempt_additive`: what a rule holds is never lost. -/

namespace LinuxAudit

/-! ### Entries -/

/-- An entry of a rule: a predicate with its operand in full. -/
structure Entry where
  field : Field
  operator : Operator
  operand : Operand
deriving DecidableEq

namespace Entry

/-- The bytes that it puts into the trailer. -/
def stored (e : Entry) : Bytes :=
  match e.operand with
  | .number _ => []
  | .text bytes => bytes

/-- The predicate that stands for it; of a text it has the length. -/
def predicate (e : Entry) : Predicate where
  field := e.field
  operator := e.operator
  value := match e.operand with
    | .number value => value
    | .text bytes => UInt32.ofNat bytes.length

/-- The value of its predicate as a count: the number, or the length of the text. -/
def size (e : Entry) : ℕ :=
  match e.operand with
  | .number value => value.toNat
  | .text bytes => bytes.length

/-- Its operand is of the kind that the field takes, and a text is no longer than a path. -/
inductive Fits : Entry → Prop
  | number {field : Field} {op : Operator} {value : UInt32} (hfield : field.isString = false) :
      Fits ⟨field, op, .number value⟩
  | text {field : Field} {op : Operator} {bytes : Bytes} (hfield : field.isString = true)
      (hlength : bytes.length ≤ maxPathLength) : Fits ⟨field, op, .text bytes⟩

theorem Fits.toNat_value {e : Entry} (h : e.Fits) : e.predicate.value.toNat = e.size := by
  cases h with
  | number hfield => rfl
  | text hfield hlength =>
      simp only [predicate, size, UInt32.toNat_ofNat', maxPathLength] at hlength ⊢
      omega

end Entry

/-- The rule with an entry more. -/
def Rule.withEntry (rule : Rule) (e : Entry) : Rule :=
  { rule with predicates := rule.predicates ++ [e.predicate], trailer := rule.trailer ++ e.stored }

theorem Rule.withEntry_number (rule : Rule) (field : Field) (op : Operator) (value : UInt32) :
    rule.withEntry ⟨field, op, .number value⟩ =
      { rule with predicates := rule.predicates ++ [⟨field, op, value⟩] } := by
  rw [withEntry, Entry.stored, List.append_nil]
  rfl

/-! ### Selected numbers -/

/-- The numbers that a selection stands for. -/
def Selection.numbers (abi : Abi) : Selection → Finset ℕ
  | .all => Finset.range maxSyscalls
  | .number nr => {nr.toNat}
  | .name text =>
    if text = "all" then Finset.range maxSyscalls
    else match abi.number? text with
      | some nr => {nr.toNat}
      | none => ∅

namespace SyscallSet

theorem getLsbD_insert (set : SyscallSet) {nr : UInt32} (hnr : nr.toNat < maxSyscalls) (n : ℕ) :
    (set.insert nr).getLsbD n = true ↔ set.getLsbD n = true ∨ n = nr.toNat := by
  rw [insert, BitVec.getLsbD_or, BitVec.getLsbD_twoPow, Bool.or_eq_true]
  apply or_congr_right
  simp only [Bool.and_eq_true, decide_eq_true_eq]
  omega

theorem getLsbD_all (n : ℕ) : all.getLsbD n = true ↔ n < maxSyscalls := by
  rw [all, BitVec.getLsbD_allOnes, decide_eq_true_iff]

end SyscallSet

namespace Draft

/-- The entry that a step adds if it succeeds. -/
def Step.addition? (abi : Abi) : Step → Option Entry
  | .setList _ | .setAction _ | .select _ => none
  | .addNumber field op value => some ⟨field, op, .number value⟩
  | .addText field op text => some ⟨field, op, .text (Utf8.encode text)⟩
  | .addExpression expression => do
    let (name, op, value) ← Operator.split? expression
    let field ← Field.ofName? name
    if field.isString then some ⟨field, op, .text (Utf8.encode value)⟩
    else (fieldOperand? abi field value).map (⟨field, op, .number ·⟩)
  | .watchTree path => some ⟨.tree, .equal, .text (normalPath path)⟩
  | .watchFile path => some ⟨.path, .equal, .text (normalPath path)⟩
  | .restrictAccess access => some ⟨.access, .equal, .number access⟩
  | .addKey key => some ⟨.key, .equal, .text (Utf8.encode key)⟩

/-- The predicates that the selection of a syscall brings into a rule. -/
def brought (abi : Abi) (rule : Rule) : List Predicate :=
  if rule.syscalls = .none then
    abi.maskPredicates.filter fun p => !rule.predicates.any (·.field == p.field)
  else []

/-- What a step that succeeds makes of a rule, with the room that it has checked for. -/
inductive Effect (abi : Abi) (rule : Rule) : Step → Rule → Prop
  | setList (list : FilterList) : Effect abi rule (.setList list) { rule with list }
  | setAction (action : Action) : Effect abi rule (.setAction action) { rule with action }
  | select (selection : Selection) (syscalls : SyscallSet)
      (hnumbers : ∀ n, syscalls.getLsbD n = true ↔
        rule.syscalls.getLsbD n = true ∨ n ∈ selection.numbers abi)
      (hroom : brought abi rule ≠ [] →
        rule.predicates.length + (brought abi rule).length ≤ maxFields) :
      Effect abi rule (.select selection)
        { rule with predicates := rule.predicates ++ brought abi rule, syscalls }
  | entry {step : Step} (e : Entry) (hentry : step.addition? abi = some e) (hfits : e.Fits)
      (hroom : rule.predicates.length ≠ maxFields)
      (htrailer : e.stored.length ≤ maxTrailerLength - rule.trailer.length) :
      Effect abi rule step (rule.withEntry e)

/-- How a step can end: it has failed and left the draft alone, or it has had its effect. -/
def Ended (abi : Abi) (draft : Draft) (step : Step) : Except RuleError Unit → Draft → Prop
  | .error _, draft' => draft' = draft
  | .ok _, draft' => Effect abi draft.rule step draft'.rule

variable {abi : Abi} {draft : Draft} {step : Step}

/-! ### What the edits do -/

theorem ends_push {p : Predicate} {post : Except RuleError Unit → Draft → Prop}
    (hfull : ∀ e, post (.error e) draft)
    (hpush : draft.rule.predicates.length ≠ maxFields → post (.ok ()) { draft with
      rule := { draft.rule with predicates := draft.rule.predicates ++ [p] } }) :
    Ends (push p) draft post := by
  simp only [push, modifyRule, ends_bind, ends_get, ends_ite, ends_throw, ends_modify]
  exact ⟨fun _ => hfull _, hpush⟩

theorem ends_openMask {post : Except RuleError Unit → Draft → Prop}
    (hfull : ∀ e, post (.error e) draft)
    (hopen : (brought abi draft.rule ≠ [] →
        draft.rule.predicates.length + (brought abi draft.rule).length ≤ maxFields) →
      post (.ok ()) { draft with rule := { draft.rule with
        predicates := draft.rule.predicates ++ brought abi draft.rule } }) :
    Ends (openMask abi) draft post := by
  simp only [openMask, modifyRule, ends_bind, ends_get, ends_ite, ends_throw, ends_modify,
    ends_pure]
  by_cases hnone : draft.rule.syscalls = .none
  · simp only [brought, if_pos hnone] at hopen
    refine ⟨fun _ => ⟨fun _ => hfull _, fun hroom => ?_⟩, fun hsome => absurd hnone hsome⟩
    exact hopen fun _ => Nat.le_of_not_lt hroom
  · simp only [brought, if_neg hnone, List.append_nil] at hopen
    exact ⟨fun hsome => absurd hsome hnone, fun _ => hopen fun h => absurd rfl h⟩

theorem selectNumber_ends {selection : Selection} {nr : UInt32}
    (hnumbers : selection.numbers abi = {nr.toNat}) :
    Ends (selectNumber abi nr) draft (Ended abi draft (.select selection)) := by
  simp only [selectNumber, modifyRule, ends_bind, ends_ite, ends_throw]
  refine ⟨fun _ => rfl, fun hnr => ends_openMask (fun _ => rfl) fun hroom => ?_⟩
  rw [ends_modify]
  refine .select selection _ (fun n => ?_) hroom
  rw [SyscallSet.getLsbD_insert _ (Nat.lt_of_not_le hnr), hnumbers, Finset.mem_singleton]

theorem selectAll_ends {selection : Selection}
    (hnumbers : selection.numbers abi = Finset.range maxSyscalls) :
    Ends (selectAll abi) draft (Ended abi draft (.select selection)) := by
  simp only [selectAll, modifyRule, ends_bind]
  refine ends_openMask (fun _ => rfl) fun hroom => ?_
  rw [ends_modify]
  refine .select selection _ (fun n => ?_) hroom
  rw [SyscallSet.getLsbD_all, hnumbers, Finset.mem_range]
  exact ⟨.inr, fun h => h.elim BitVec.lt_of_getLsbD id⟩

theorem select_ends (selection : Selection) :
    Ends (select abi selection) draft (Ended abi draft (.select selection)) := by
  cases selection with
  | all => exact selectAll_ends rfl
  | number nr => exact selectNumber_ends rfl
  | name name =>
      rw [select, selectName, ends_ite]
      refine ⟨fun hall => selectAll_ends (if_pos hall), fun hall => ?_⟩
      cases hnumber : abi.number? name with
      | none => rfl
      | some nr =>
          apply selectNumber_ends
          simp only [Selection.numbers, if_neg hall, hnumber]

theorem addNumber_ends {field : Field} {op : Operator} {value : UInt32}
    (hentry : step.addition? abi = some ⟨field, op, .number value⟩) :
    Ends (addNumber field op value) draft (Ended abi draft step) := by
  rw [addNumber, ends_ite]
  refine ⟨fun _ => rfl, fun hfield => ends_push (fun _ => rfl) fun hroom => ?_⟩
  show Effect abi draft.rule step
    { draft.rule with predicates := draft.rule.predicates ++ [⟨field, op, value⟩] }
  rw [← Rule.withEntry_number]
  exact .entry _ hentry (.number (Bool.eq_false_iff.2 hfield)) hroom (Nat.zero_le _)

theorem pushText_ends {field : Field} {op : Operator} {text : Bytes}
    (hentry : step.addition? abi = some ⟨field, op, .text text⟩) (hfield : field.isString = true)
    (hpath : text.length ≤ maxPathLength)
    (htrailer : text.length ≤ maxTrailerLength - draft.rule.trailer.length) :
    Ends (pushText field op text) draft (Ended abi draft step) := by
  simp only [pushText, modifyRule, ends_bind]
  refine ends_push (fun _ => rfl) fun hroom => ?_
  simp only [ends_modify]
  exact .entry _ hentry (.text hfield hpath) hroom htrailer

theorem addText_ends {field : Field} {op : Operator} {text : String}
    (hentry : step.addition? abi = some ⟨field, op, .text (Utf8.encode text)⟩) :
    Ends (addText field op text) draft (Ended abi draft step) := by
  simp only [addText, room, ends_bind, ends_ite, ends_throw, ends_get, ends_pure]
  refine ⟨fun _ => rfl, fun hfield => ⟨fun _ => rfl, fun hlong => ?_⟩⟩
  obtain ⟨hlimit, hroom⟩ := not_or.1 hlong
  refine pushText_ends hentry ?_ ?_ (Nat.le_of_not_lt hroom)
  · simpa using hfield
  · refine (Nat.le_of_not_lt hlimit).trans ?_
    by_cases hkey : field = .key
    · rw [if_pos hkey]
      decide
    · rw [if_neg hkey]

theorem addExpression_ends (expression : String) : Ends (addExpression abi expression) draft
    (Ended abi draft (.addExpression expression)) := by
  rw [addExpression]
  cases hsplit : Operator.split? expression with
  | none => rfl
  | some parts =>
      obtain ⟨name, op, value⟩ := parts
      cases hname : Field.ofName? name with
      | none => simp only [hname, ends_throw, Ended]
      | some field =>
          simp only [hname, ends_ite]
          refine ⟨fun hfield => addText_ends ?_, fun hfield => ?_⟩
          · simp [Step.addition?, hsplit, hname, hfield]
          · cases hvalue : fieldOperand? abi field value with
            | none => rfl
            | some number =>
                apply addNumber_ends
                simp [Step.addition?, hsplit, hname, hfield, hvalue]

theorem watch_ends {field : Field} {path : Bytes}
    (hentry : step.addition? abi = some ⟨field, .equal, .text (normalPath path)⟩)
    (hfield : field.isString = true) :
    Ends (watch field path) draft (Ended abi draft step) := by
  simp only [watch, room, ends_bind, ends_ite, ends_throw, ends_get, ends_pure]
  refine ⟨fun _ => rfl, fun _ => ⟨fun _ => rfl, fun hlong => ?_⟩⟩
  obtain ⟨hpath, hroom⟩ := not_or.1 hlong
  exact pushText_ends hentry hfield (Nat.le_of_not_lt hpath) (Nat.le_of_not_lt hroom)

theorem restrictAccess_ends (access : UInt32) :
    Ends (restrictAccess access) draft (Ended abi draft (.restrictAccess access)) := by
  rw [restrictAccess, ends_ite]
  exact ⟨fun _ => rfl, fun _ => addNumber_ends rfl⟩

/-- Every step either fails and leaves the draft alone, or has its effect. -/
theorem edit_ends (abi : Abi) (draft : Draft) (step : Step) :
    Ends (step.edit abi) draft (Ended abi draft step) := by
  cases step with
  | setList list => exact .setList list
  | setAction action => exact .setAction action
  | select selection => exact select_ends selection
  | addNumber field op value => exact addNumber_ends rfl
  | addText field op text => exact addText_ends rfl
  | addExpression expression => exact addExpression_ends expression
  | watchTree path => exact watch_ends rfl rfl
  | watchFile path => exact watch_ends rfl rfl
  | restrictAccess access => exact restrictAccess_ends access
  | addKey key =>
      show Ends (addText .key .equal key) draft _
      exact addText_ends rfl

theorem attempt_cases (abi : Abi) (draft : Draft) (step : Step) :
    (∃ e, draft.attempt (step.edit abi) = (some e, draft)) ∨
      ∃ draft', draft.attempt (step.edit abi) = (none, draft') ∧
        Effect abi draft.rule step draft'.rule := by
  have h := edit_ends abi draft step
  rw [attempt]
  cases hrun : (step.edit abi).run draft with
  | ok a draft' => exact .inr ⟨draft', rfl, h.ok hrun⟩
  | error e draft' =>
      obtain rfl : draft' = draft := h.error hrun
      exact .inl ⟨e, rfl⟩

end Draft

/-! ### Nothing is lost -/

/-- A rule has all that another one has, at the same places. -/
structure Rule.Extends (rule' rule : Rule) : Prop where
  predicates : rule.predicates <+: rule'.predicates
  trailer : rule.trailer <+: rule'.trailer
  syscalls : ∀ nr : UInt32, rule.syscalls.has nr = true → rule'.syscalls.has nr = true

theorem Rule.Extends.refl (rule : Rule) : rule.Extends rule where
  predicates := List.prefix_rfl
  trailer := List.prefix_rfl
  syscalls _ h := h

theorem Rule.Extends.trans {r s t : Rule} (hst : t.Extends s) (hrs : s.Extends r) :
    t.Extends r where
  predicates := hrs.predicates.trans hst.predicates
  trailer := hrs.trailer.trans hst.trailer
  syscalls nr h := hst.syscalls nr (hrs.syscalls nr h)

namespace Draft

variable {abi : Abi} {step : Step}

theorem Effect.extends {rule rule' : Rule} (h : Effect abi rule step rule') :
    rule'.Extends rule := by
  cases h with
  | setList list => exact ⟨List.prefix_rfl, List.prefix_rfl, fun _ h => h⟩
  | setAction action => exact ⟨List.prefix_rfl, List.prefix_rfl, fun _ h => h⟩
  | select selection syscalls hnumbers hroom =>
      exact ⟨List.prefix_append _ _, List.prefix_rfl, fun nr h => (hnumbers nr.toNat).2 (.inl h)⟩
  | entry e hentry hfits hroom htrailer =>
      exact ⟨List.prefix_append _ _, List.prefix_append _ _, fun _ h => h⟩

/-- What a step that succeeds does to the target of a rule: the two steps that set it change nothing
else, and the others leave it alone. -/
def Step.Retargets (rule rule' : Rule) : Step → Prop
  | .setList list => rule' = { rule with list }
  | .setAction action => rule' = { rule with action }
  | _ => rule'.list = rule.list ∧ rule'.action = rule.action

theorem Effect.retargets {rule rule' : Rule} (h : Effect abi rule step rule') :
    step.Retargets rule rule' := by
  cases h with
  | setList list => rfl
  | setAction action => rfl
  | select selection syscalls hnumbers hroom => exact ⟨rfl, rfl⟩
  | entry e hentry hfits hroom htrailer =>
      cases step with
      | setList list => cases hentry
      | setAction action => cases hentry
      | _ => exact ⟨rfl, rfl⟩

/-- Steps one after the other lose nothing of what a rule holds, whether they succeed or not. -/
theorem attemptAll_extends (abi : Abi) (draft : Draft) (steps : List Step) :
    (attemptAll abi draft steps).rule.Extends draft.rule := by
  induction steps generalizing draft with
  | nil => exact .refl draft.rule
  | cons step steps ih =>
      have hstep : (draft.attempt (step.edit abi)).2.rule.Extends draft.rule := by
        rcases attempt_cases abi draft step with ⟨e, heq⟩ | ⟨draft', heq, heffect⟩
        · rw [heq]
          exact .refl draft.rule
        · rw [heq]
          exact heffect.extends
      exact (ih _).trans hstep

/-- A step that fails leaves the draft alone, and one that succeeds only adds to the rule or sets its
target. So nothing is lost over any steps. -/
theorem attempt_additive (abi : Abi) (draft : Draft) (step : Step) :
    (match draft.attempt (step.edit abi) with
      | (some _, draft') => draft' = draft
      | (none, draft') =>
        draft'.rule.Extends draft.rule ∧ step.Retargets draft.rule draft'.rule) ∧
    ∀ steps, (attemptAll abi draft steps).rule.Extends draft.rule := by
  refine ⟨?_, attemptAll_extends abi draft⟩
  rcases attempt_cases abi draft step with ⟨e, heq⟩ | ⟨draft', heq, heffect⟩
  · rw [heq]
  · rw [heq]
    exact ⟨heffect.extends, heffect.retargets⟩

end Draft

end LinuxAudit
