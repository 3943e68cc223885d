import Mathlib
import LinuxAudit.Proofs.Rule.Edits

/-! When the edits of a draft succeed: a field expression, `succeeds_addExpression_iff`, and the
selection of syscalls, `succeeds_select_iff`. An edit that succeeds has its effect,
`Succeeds.exists_effect`. -/

namespace LinuxAudit

/-- The longest text of a string field. -/
def Field.maxTextLength (field : Field) : ℕ :=
  if field = .key then maxKeyLength else maxPathLength

theorem Entry.Fits.stored_le {e : Entry} (h : e.Fits) (hkey : e.field ≠ .key) :
    e.stored.length ≤ e.field.maxTextLength := by
  cases h with
  | number hfield => exact Nat.zero_le _
  | text hfield hlength =>
      rw [Field.maxTextLength, if_neg hkey]
      exact hlength

/-- There is room for an entry in a rule. -/
structure Entry.HasRoom (e : Entry) (rule : Rule) : Prop where
  field : rule.predicates.length ≠ maxFields
  text : e.stored.length ≤ e.field.maxTextLength
  trailer : e.stored.length ≤ maxTrailerLength - rule.trailer.length

theorem Entry.hasRoom_number_iff {rule : Rule} {field : Field} {op : Operator} {value : UInt32} :
    HasRoom ⟨field, op, .number value⟩ rule ↔ rule.predicates.length ≠ maxFields :=
  ⟨fun h => h.field, fun h => ⟨h, Nat.zero_le _, Nat.zero_le _⟩⟩

/-- A selection stands for numbers that the bitmap holds. -/
structure Selection.Selectable (abi : Abi) (selection : Selection) : Prop where
  nonempty : (selection.numbers abi).Nonempty
  lt : ∀ n ∈ selection.numbers abi, n < maxSyscalls

theorem Selection.selectable_of_range {abi : Abi} {selection : Selection}
    (h : selection.numbers abi = Finset.range maxSyscalls) : selection.Selectable abi := by
  refine ⟨?_, fun n hn => ?_⟩
  · rw [h]
    exact Finset.nonempty_range_iff.2 (by decide)
  · rw [h] at hn
    exact Finset.mem_range.1 hn

theorem Selection.selectable_singleton_iff {abi : Abi} {selection : Selection} {n : ℕ}
    (h : selection.numbers abi = {n}) : selection.Selectable abi ↔ n < maxSyscalls := by
  constructor
  · intro hselectable
    exact hselectable.lt n (h ▸ Finset.mem_singleton_self n)
  · intro hn
    refine ⟨h ▸ Finset.singleton_nonempty n, fun m hm => ?_⟩
    rw [h, Finset.mem_singleton] at hm
    rwa [hm]

namespace Draft

/-- An edit succeeds on a draft. -/
def Succeeds (edit : Edit Unit) (draft : Draft) : Prop :=
  Ends edit draft fun result _ => result = .ok ()

variable {abi : Abi} {draft : Draft}

theorem not_succeeds_throw (e : RuleError) (draft : Draft) : ¬Succeeds (throw e) draft := nofun

theorem succeeds_bind_modifyRule_iff {edit : Edit Unit} {f : Rule → Rule} :
    Succeeds (edit >>= fun _ => modifyRule f) draft ↔ Succeeds edit draft := by
  rw [Succeeds, Succeeds, ends_bind]
  refine ⟨fun h => h.mono ?_, fun h => h.mono ?_⟩
  · rintro (e | ⟨⟩) draft' hresult
    · cases hresult
    · rfl
  · rintro _ draft' rfl
    rfl

/-- A step that adds an entry does nothing else, and the entry fits its field. -/
theorem Effect.eq_withEntry {step : Step} {rule rule' : Rule} {e : Entry}
    (h : Effect abi rule step rule') (hentry : step.addition? abi = some e) :
    e.Fits ∧ rule' = rule.withEntry e := by
  cases h with
  | setList list => cases hentry
  | setAction action => cases hentry
  | select selection syscalls hnumbers hroom => cases hentry
  | entry e' hentry' hfits hroom htrailer =>
      rw [hentry] at hentry'
      cases hentry'
      exact ⟨hfits, rfl⟩

theorem Effect.of_select {selection : Selection} {rule rule' : Rule}
    (h : Effect abi rule (.select selection) rule') :
    ∃ syscalls : SyscallSet,
      (∀ n, syscalls.getLsbD n = true ↔
        rule.syscalls.getLsbD n = true ∨ n ∈ selection.numbers abi) ∧
      rule' = { rule with predicates := rule.predicates ++ brought abi rule, syscalls } := by
  cases h with
  | select _ syscalls hnumbers hroom => exact ⟨syscalls, hnumbers, rfl⟩
  | entry e hentry hfits hroom htrailer => cases hentry

/-- A step that succeeds has its effect. -/
theorem Succeeds.exists_effect {step : Step} (h : Succeeds (step.edit abi) draft) :
    ∃ draft', (step.edit abi).run draft = .ok () draft' ∧
      Effect abi draft.rule step draft'.rule := by
  have hends := (edit_ends abi draft step).and h
  cases hrun : (step.edit abi).run draft with
  | ok a draft' => exact ⟨draft', rfl, (hends.ok hrun).1⟩
  | error e draft' => cases (hends.error hrun).2

/-! ### Entries -/

theorem succeeds_push_iff {p : Predicate} :
    Succeeds (push p) draft ↔ draft.rule.predicates.length ≠ maxFields := by
  simp [Succeeds, push, modifyRule, ends_bind, ends_get, ends_ite, ends_modify, ends_throw]

theorem succeeds_pushText_iff {field : Field} {op : Operator} {text : Bytes} :
    Succeeds (pushText field op text) draft ↔ draft.rule.predicates.length ≠ maxFields := by
  simp [Succeeds, pushText, push, modifyRule, ends_bind, ends_get, ends_ite, ends_modify,
    ends_throw]

theorem succeeds_addNumber_iff {field : Field} {op : Operator} {value : UInt32} :
    Succeeds (addNumber field op value) draft ↔
      field.isString = false ∧ draft.rule.predicates.length ≠ maxFields := by
  rw [addNumber]
  cases hfield : field.isString with
  | true => exact iff_of_false (not_succeeds_throw _ _) fun h => Bool.noConfusion h.1
  | false => exact succeeds_push_iff.trans (and_iff_right rfl).symm

theorem succeeds_addText_iff {field : Field} {op : Operator} {text : String} :
    Succeeds (addText field op text) draft ↔
      field.isString = true ∧ Entry.HasRoom ⟨field, op, .text (Utf8.encode text)⟩ draft.rule := by
  simp only [Succeeds, addText, room, ends_bind, ends_ite, ends_get, ends_pure, ends_throw]
  constructor
  · rintro ⟨hkind, htaken⟩
    have hfield : field.isString = true := by
      by_contra hnumber
      cases hkind (by simpa using hnumber)
    obtain ⟨hlong, hpush⟩ := htaken (by simp [hfield])
    have hfits := not_or.1 (mt hlong (by simp))
    exact ⟨hfield, succeeds_pushText_iff.1 (hpush (not_or.2 hfits)), Nat.le_of_not_lt hfits.1,
      Nat.le_of_not_lt hfits.2⟩
  · rintro ⟨hfield, hroom⟩
    have hfits := not_or.2 ⟨Nat.not_lt.2 hroom.text, Nat.not_lt.2 hroom.trailer⟩
    refine ⟨fun hnumber => absurd hfield (by simpa using hnumber), fun _ => ⟨?_, fun _ => ?_⟩⟩
    · exact fun hlong => absurd hlong hfits
    · exact succeeds_pushText_iff.2 hroom.field

/-- An expression is taken if it says an entry for which there is room. -/
theorem succeeds_addExpression_iff {expression : String} :
    Succeeds (addExpression abi expression) draft ↔
      ∃ e, (Step.addExpression expression).addition? abi = some e ∧ e.HasRoom draft.rule := by
  rw [addExpression, Step.addition?]
  cases hsplit : Operator.split? expression with
  | none => simp [not_succeeds_throw]
  | some parts =>
      obtain ⟨name, op, value⟩ := parts
      cases hname : Field.ofName? name with
      | none => simp [hname, not_succeeds_throw]
      | some field =>
          cases hfield : field.isString with
          | true => simp [hname, hfield, succeeds_addText_iff]
          | false =>
              cases hvalue : fieldOperand? abi field value with
              | none => simp [hname, hfield, hvalue, not_succeeds_throw]
              | some number =>
                  simp [hname, hfield, hvalue, succeeds_addNumber_iff, Entry.hasRoom_number_iff]

/-- The text of an entry that a step has added is not too long for its field. -/
theorem Succeeds.stored_le {step : Step} {e : Entry} (h : Succeeds (step.edit abi) draft)
    (hentry : step.addition? abi = some e) : e.stored.length ≤ e.field.maxTextLength := by
  cases step with
  | setList list => cases hentry
  | setAction action => cases hentry
  | select selection => cases hentry
  | addNumber field op value =>
      cases hentry
      exact Nat.zero_le _
  | restrictAccess access =>
      cases hentry
      exact Nat.zero_le _
  | addText field op text =>
      cases hentry
      exact (succeeds_addText_iff.1 h).2.text
  | addKey key =>
      cases hentry
      have htext : Succeeds (addText .key .equal key) draft := h
      exact (succeeds_addText_iff.1 htext).2.text
  | addExpression expression =>
      obtain ⟨e', hentry', hroom⟩ := succeeds_addExpression_iff.1 h
      rw [hentry] at hentry'
      cases hentry'
      exact hroom.text
  | watchTree path =>
      obtain ⟨draft', -, heffect⟩ := h.exists_effect
      cases hentry
      exact (heffect.eq_withEntry rfl).1.stored_le (by simp)
  | watchFile path =>
      obtain ⟨draft', -, heffect⟩ := h.exists_effect
      cases hentry
      exact (heffect.eq_withEntry rfl).1.stored_le (by simp)

/-! ### Selections -/

theorem succeeds_openMask_iff : Succeeds (openMask abi) draft ↔ (draft.rule.syscalls = .none →
    draft.rule.predicates.length + (brought abi draft.rule).length ≤ maxFields) := by
  simp only [Succeeds, openMask, modifyRule, ends_bind, ends_get, ends_ite, ends_throw, ends_modify,
    ends_pure]
  by_cases hnone : draft.rule.syscalls = .none
  · simp [hnone, brought]
  · simp [hnone]

theorem succeeds_selectNumber_iff {nr : UInt32} : Succeeds (selectNumber abi nr) draft ↔
    nr.toNat < maxSyscalls ∧ Succeeds (openMask abi) draft := by
  rw [selectNumber]
  by_cases hnr : nr.toNat < maxSyscalls
  · rw [if_neg (Nat.not_le.2 hnr), and_iff_right hnr]
    exact succeeds_bind_modifyRule_iff
  · rw [if_pos (Nat.le_of_not_lt hnr)]
    exact iff_of_false (not_succeeds_throw _ _) fun h => hnr h.1

theorem succeeds_selectAll_iff : Succeeds (selectAll abi) draft ↔ Succeeds (openMask abi) draft :=
  succeeds_bind_modifyRule_iff

/-- A selection is taken if it can be selected and there is room for what it brings in. -/
theorem succeeds_select_iff {selection : Selection} : Succeeds (select abi selection) draft ↔
    selection.Selectable abi ∧ Succeeds (openMask abi) draft := by
  cases selection with
  | all => rw [select, succeeds_selectAll_iff, and_iff_right (Selection.selectable_of_range rfl)]
  | number nr => rw [select, succeeds_selectNumber_iff, Selection.selectable_singleton_iff rfl]
  | name name =>
      rw [select, selectName]
      by_cases hall : name = "all"
      · have hnumbers : (Selection.name name).numbers abi = Finset.range maxSyscalls := if_pos hall
        rw [if_pos hall, succeeds_selectAll_iff,
          and_iff_right (Selection.selectable_of_range hnumbers)]
      · rw [if_neg hall]
        cases hnumber : abi.number? name with
        | none =>
            have hempty : (Selection.name name).numbers abi = ∅ := by
              simp only [Selection.numbers, if_neg hall, hnumber]
            refine iff_of_false (not_succeeds_throw _ _) fun h => ?_
            exact Finset.not_nonempty_empty (hempty ▸ h.1.nonempty)
        | some nr =>
            have hsingle : (Selection.name name).numbers abi = {nr.toNat} := by
              simp only [Selection.numbers, if_neg hall, hnumber]
            rw [Selection.selectable_singleton_iff hsingle]
            exact succeeds_selectNumber_iff

/-! ### Steps one after the other -/

theorem succeeds_of_run {edit : Edit Unit} {draft' : Draft} (h : edit.run draft = .ok () draft') :
    Succeeds edit draft := by
  rw [Succeeds, Ends, h]

theorem effect_of_run {step : Step} {draft' : Draft}
    (h : (step.edit abi).run draft = .ok () draft') : Effect abi draft.rule step draft'.rule :=
  (edit_ends abi draft step).ok h

theorem run_forM_cons_iff {step : Step} {steps : List Step} {draft' : Draft} :
    ((step :: steps).forM (Step.edit abi)).run draft = .ok () draft' ↔
      ∃ mid, (step.edit abi).run draft = .ok () mid ∧
        (steps.forM (Step.edit abi)).run mid = .ok () draft' := by
  rw [List.forM_eq_forM, List.forM_cons, run_bind]
  cases hrun : (step.edit abi).run draft with
  | error e mid => simp
  | ok a mid => simp

theorem run_forM_append_iff {front behind : List Step} {draft' : Draft} :
    ((front ++ behind).forM (Step.edit abi)).run draft = .ok () draft' ↔
      ∃ mid, (front.forM (Step.edit abi)).run draft = .ok () mid ∧
        (behind.forM (Step.edit abi)).run mid = .ok () draft' := by
  rw [List.forM_eq_forM, List.forM_append, run_bind, ← List.forM_eq_forM]
  cases hrun : (front.forM (Step.edit abi)).run draft with
  | error e mid => simp
  | ok a mid => simp

end Draft

end LinuxAudit
