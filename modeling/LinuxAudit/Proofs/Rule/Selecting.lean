import Mathlib
import LinuxAudit.Proofs.Rule.Sketch
import LinuxAudit.Proofs.Rule.Succeeding

/-! Syscalls selected one after the other. The first selection brings in the predicates that name the
numbering and is the only one that can want for room, `exists_run_selectEach_iff`; each selects its
numbers, `rule_of_selectEach`. So all that counts of a list of selections is which ones are in it,
`selectEach_of_same_members`. -/

namespace LinuxAudit.Draft

/-- Makes selections one after the other, up to the first that fails. -/
def selectEach (abi : Abi) (selections : List Selection) : Edit Unit :=
  (selections.map Step.select).forM (Step.edit abi)

variable {abi : Abi} {draft draft' : Draft} {selection : Selection} {selections : List Selection}

theorem run_selectEach_cons_iff :
    (selectEach abi (selection :: selections)).run draft = .ok () draft' ↔
      ∃ mid, ((Step.select selection).edit abi).run draft = .ok () mid ∧
        (selectEach abi selections).run mid = .ok () draft' :=
  run_forM_cons_iff

/-- A selection leaves some syscall selected. -/
theorem syscalls_ne_none_of_select
    (h : ((Step.select selection).edit abi).run draft = .ok () draft') :
    draft'.rule.syscalls ≠ .none := by
  obtain ⟨n, hn⟩ := (succeeds_select_iff.1 (succeeds_of_run h)).1.nonempty
  obtain ⟨syscalls, hnumbers, hrule⟩ := (effect_of_run h).of_select
  rw [hrule]
  intro hnone
  exact SyscallSet.eq_none_iff.1 hnone n ((hnumbers n).2 (.inr hn))

/-- Selections are all made if each can be selected and there is room for what the first brings
in. -/
theorem exists_run_selectEach_iff :
    (∃ draft', (selectEach abi selections).run draft = .ok () draft') ↔
      (∀ selection ∈ selections, selection.Selectable abi) ∧
        (selections ≠ [] → Succeeds (openMask abi) draft) := by
  induction selections generalizing draft with
  | nil => exact iff_of_true ⟨draft, rfl⟩ ⟨by simp, fun h => absurd rfl h⟩
  | cons selection selections ih =>
      constructor
      · rintro ⟨draft', h⟩
        obtain ⟨mid, hrun, hrest⟩ := run_selectEach_cons_iff.1 h
        obtain ⟨hselectable, hopen⟩ := succeeds_select_iff.1 (succeeds_of_run hrun)
        exact ⟨List.forall_mem_cons.2 ⟨hselectable, (ih.1 ⟨draft', hrest⟩).1⟩, fun _ => hopen⟩
      · rintro ⟨hall, hopen⟩
        obtain ⟨hfirst, hothers⟩ := List.forall_mem_cons.1 hall
        have hsucceeds : Succeeds ((Step.select selection).edit abi) draft :=
          succeeds_select_iff.2 ⟨hfirst, hopen (List.cons_ne_nil _ _)⟩
        obtain ⟨mid, hrun, -⟩ := hsucceeds.exists_effect
        -- A syscall is selected now, so that the others bring nothing in.
        have hmid : Succeeds (openMask abi) mid :=
          succeeds_openMask_iff.2 fun hnone => absurd hnone (syscalls_ne_none_of_select hrun)
        obtain ⟨draft', hrest⟩ := ih.2 ⟨hothers, fun _ => hmid⟩
        exact ⟨draft', run_selectEach_cons_iff.2 ⟨mid, hrun, hrest⟩⟩

/-- Of selections each selects its numbers, but only the first brings in predicates. -/
theorem rule_of_selectEach (h : (selectEach abi selections).run draft = .ok () draft') :
    ∃ syscalls : SyscallSet,
      (∀ n, syscalls.getLsbD n = true ↔ draft.rule.syscalls.getLsbD n = true ∨
        ∃ selection ∈ selections, n ∈ selection.numbers abi) ∧
      draft'.rule = { draft.rule with
        predicates := draft.rule.predicates ++
          if selections = [] then [] else brought abi draft.rule
        syscalls } := by
  induction selections generalizing draft with
  | nil =>
      cases h
      exact ⟨draft'.rule.syscalls, by simp, by rw [if_pos rfl, List.append_nil]⟩
  | cons selection selections ih =>
      obtain ⟨mid, hrun, hrest⟩ := run_selectEach_cons_iff.1 h
      have hbrought : brought abi mid.rule = [] := if_neg (syscalls_ne_none_of_select hrun)
      obtain ⟨selected, hselected, hmid⟩ := (effect_of_run hrun).of_select
      obtain ⟨syscalls, hsyscalls, hdraft'⟩ := ih hrest
      refine ⟨syscalls, fun n => ?_, ?_⟩
      · rw [hsyscalls, hmid, List.exists_mem_cons_iff, ← or_assoc]
        exact or_congr_left (hselected n)
      · rw [hdraft', hbrought, ite_self, List.append_nil, hmid, if_neg (List.cons_ne_nil _ _)]

theorem brought_eq (abi : Abi) (rule : Rule) : brought abi rule =
    if rule.syscalls = .none then
      abi.maskPredicates.filter fun p => ∀ q ∈ rule.predicates, q.field ≠ p.field
    else [] := by
  rw [brought]
  congr 1
  apply List.filter_congr
  intro p hp
  rw [Bool.eq_iff_iff]
  simp

/-- Of selections it only counts which ones there are, not how often and in what order: if two lists
have the same, all of the one can be made if and only if all of the other can, and the rule is the
same. It selects what it selected before and the numbers of the selections, and if nothing was
selected before, the fields that name the numbering and had no predicate have theirs. -/
theorem selectEach_of_same_members (abi : Abi) (draft : Draft) {front back : List Selection}
    (h : ∀ selection, selection ∈ front ↔ selection ∈ back) :
    ((∃ draft', (selectEach abi front).run draft = .ok () draft') ↔
      ∃ draft', (selectEach abi back).run draft = .ok () draft') ∧
    ∀ draft', (selectEach abi front).run draft = .ok () draft' →
      (∃ other, (selectEach abi back).run draft = .ok () other ∧ other.rule = draft'.rule) ∧
      (∀ nr : UInt32, draft'.rule.syscalls.has nr = true ↔ draft.rule.syscalls.has nr = true ∨
        ∃ selection ∈ front, nr.toNat ∈ selection.numbers abi) ∧
      draft'.rule = { draft.rule with
        predicates := draft.rule.predicates ++
          (if front ≠ [] ∧ draft.rule.syscalls = .none then
            abi.maskPredicates.filter fun p => ∀ q ∈ draft.rule.predicates, q.field ≠ p.field
          else [])
        syscalls := draft'.rule.syscalls } := by
  have hnil : front = [] ↔ back = [] := by
    simp only [List.eq_nil_iff_forall_not_mem, h]
  have hruns : (∃ draft', (selectEach abi front).run draft = .ok () draft') ↔
      ∃ draft', (selectEach abi back).run draft = .ok () draft' := by
    simp only [exists_run_selectEach_iff, h, ne_eq, hnil]
  refine ⟨hruns, fun draft' hrun => ?_⟩
  obtain ⟨syscalls, hsyscalls, hrule⟩ := rule_of_selectEach hrun
  refine ⟨?_, fun nr => ?_, ?_⟩
  · obtain ⟨other, hother⟩ := hruns.1 ⟨draft', hrun⟩
    obtain ⟨syscalls', hsyscalls', hrule'⟩ := rule_of_selectEach hother
    have hsame : syscalls' = syscalls := by
      apply BitVec.eq_of_getLsbD_eq
      intro n hn
      rw [Bool.eq_iff_iff, hsyscalls, hsyscalls']
      simp only [h]
    refine ⟨other, hother, ?_⟩
    rw [hrule, hrule', hsame]
    simp only [hnil]
  · rw [hrule]
    exact hsyscalls nr.toNat
  · rw [hrule, brought_eq]
    by_cases hfront : front = []
    · simp [hfront]
    · simp [hfront]

theorem selectEach_of_same_members_repeated :
    (∀ selection, selection ∈ [Selection.number 83, .name "open", .number 83] ↔
      selection ∈ [Selection.name "open", .number 83]) ∧
    ∃ draft draft', (selectEach Machine.x8664.abi
        [.number 83, .name "open", .number 83]).run {} = .ok () draft ∧
      (selectEach Machine.x8664.abi [.name "open", .number 83]).run {} = .ok () draft' ∧
      draft'.rule = draft.rule ∧ draft.rule.predicates = [⟨.arch, .equal, Arch.x8664⟩] ∧
      draft.rule.syscalls.has 2 = true := by
  have hsame (selection : Selection) :
      selection ∈ [Selection.number 83, .name "open", .number 83] ↔
        selection ∈ [Selection.name "open", .number 83] := by
    simp only [List.mem_cons, List.not_mem_nil, or_false]
    tauto
  have hnumbers : (Selection.name "open").numbers Machine.x8664.abi = {2} := by decide +kernel
  have hselectable : ∀ selection ∈ [Selection.name "open", .number 83],
      selection.Selectable Machine.x8664.abi := by
    simp only [List.forall_mem_cons]
    exact ⟨(Selection.selectable_singleton_iff hnumbers).2 (by decide),
      (Selection.selectable_singleton_iff (n := 83) rfl).2 (by decide), nofun⟩
  -- A fresh draft must not be evaluated where selections are only made on it.
  generalize hfresh : ({} : Draft) = fresh
  have hrule : fresh.rule = {} := by rw [← hfresh]
  have hopen : Succeeds (openMask Machine.x8664.abi) fresh := by
    rw [succeeds_openMask_iff, hrule]
    decide +kernel
  obtain ⟨hruns, hmade⟩ := selectEach_of_same_members Machine.x8664.abi fresh hsame
  obtain ⟨draft, hrun⟩ := hruns.2 (exists_run_selectEach_iff.2 ⟨hselectable, fun _ => hopen⟩)
  obtain ⟨⟨draft', hrun', hsame'⟩, hhas, hdraft⟩ := hmade draft hrun
  refine ⟨hsame, draft, draft', hrun, hrun', hsame', ?_, ?_⟩
  · rw [hrule, if_pos ⟨List.cons_ne_nil _ _, rfl⟩] at hdraft
    exact congrArg Rule.predicates hdraft
  · refine (hhas 2).2 (.inr ⟨.name "open", by simp, ?_⟩)
    rw [hnumbers]
    exact Finset.mem_singleton_self 2

end LinuxAudit.Draft
