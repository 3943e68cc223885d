import Mathlib
import LinuxAudit.Proofs.Rule.Drafting

/-! A plain picture of a drafted rule: a list of entries with their texts in full, and a finite set of
syscall numbers. The steps that succeed add to it without trailer, lengths and bitmap.
`Describes.apply` says that one step keeps picture and rule together, and `drafted_refines` reads the
entries and the numbers off every rule that was drafted. -/

namespace LinuxAudit

/-- The text of an entry, with its field. -/
def Entry.text? (e : Entry) : Option (Field × Bytes) :=
  match e.operand with
  | .number _ => none
  | .text bytes => some (e.field, bytes)

/-- What a rule says. -/
structure Sketch where
  entries : List Entry := []
  syscalls : Finset ℕ := ∅

namespace Sketch

/-- What the first selection adds: the numbering is named by each field that no entry has yet. -/
def named (abi : Abi) (sketch : Sketch) : List Entry :=
  if sketch.syscalls = ∅ then
    (abi.maskPredicates.filter fun p => ∀ e ∈ sketch.entries, e.field ≠ p.field).map
      fun p => ⟨p.field, p.operator, .number p.value⟩
  else []

/-- The sketch after a step that succeeds. -/
def apply (abi : Abi) (sketch : Sketch) : Draft.Step → Sketch
  | .setList _ | .setAction _ => sketch
  | .select selection =>
    ⟨sketch.entries ++ sketch.named abi, sketch.syscalls ∪ selection.numbers abi⟩
  | step => { sketch with entries := sketch.entries ++ (step.addition? abi).toList }

end Sketch

/-! ### Sketch and rule -/

/-- A rule is laid out as a sketch says. -/
structure Sketch.Describes (sketch : Sketch) (rule : Rule) : Prop where
  predicates : rule.predicates = sketch.entries.map Entry.predicate
  trailer : rule.trailer = sketch.entries.flatMap Entry.stored
  syscalls : ∀ n, rule.syscalls.getLsbD n = true ↔ n ∈ sketch.syscalls
  fits : ∀ e ∈ sketch.entries, e.Fits

/-- If a syscall is selected, every field that names the numbering has an entry. -/
def Sketch.NamesNumbering (abi : Abi) (sketch : Sketch) : Prop :=
  sketch.syscalls.Nonempty → ∀ p ∈ abi.maskPredicates, ∃ e ∈ sketch.entries, e.field = p.field

theorem SyscallSet.eq_none_iff {set : SyscallSet} : set = none ↔ ∀ n, set.getLsbD n ≠ true := by
  constructor
  · rintro rfl n
    rw [none]
    simp
  · intro h
    apply BitVec.eq_of_getLsbD_eq
    intro n hn
    rw [Bool.eq_false_iff.2 (h n), none]
    simp

namespace Sketch

variable {abi : Abi} {sketch : Sketch} {rule : Rule}

theorem Describes.none_iff (h : sketch.Describes rule) :
    rule.syscalls = .none ↔ sketch.syscalls = ∅ := by
  rw [SyscallSet.eq_none_iff, Finset.eq_empty_iff_forall_notMem]
  exact forall_congr' fun n => not_congr (h.syscalls n)

theorem Describes.named (h : sketch.Describes rule) :
    (sketch.named abi).map Entry.predicate = Draft.brought abi rule := by
  have hnew (p : Predicate) : decide (∀ e ∈ sketch.entries, e.field ≠ p.field) =
      !rule.predicates.any (·.field == p.field) := by
    rw [h.predicates, Bool.eq_iff_iff]
    simp [Entry.predicate]
  rw [Sketch.named, Draft.brought]
  by_cases hempty : sketch.syscalls = ∅
  · rw [if_pos hempty, if_pos (h.none_iff.2 hempty), List.map_map]
    simp only [hnew]
    exact List.map_id _
  · rw [if_neg hempty, if_neg (mt h.none_iff.1 hempty)]
    rfl

theorem stored_named (abi : Abi) (sketch : Sketch) :
    (sketch.named abi).flatMap Entry.stored = [] := by
  rw [List.flatMap_eq_nil_iff, named]
  intro e he
  split at he
  · obtain ⟨p, -, rfl⟩ := List.mem_map.1 he
    rfl
  · cases he

theorem fits_named (hmask : ∀ p ∈ abi.maskPredicates, p.field.isString = false) :
    ∀ e ∈ sketch.named abi, e.Fits := by
  intro e he
  rw [named] at he
  split at he
  · obtain ⟨p, hp, rfl⟩ := List.mem_map.1 he
    exact .number (hmask p (List.mem_of_mem_filter hp))
  · cases he

theorem apply_of_addition? {step : Draft.Step} {e : Entry} (h : step.addition? abi = some e) :
    sketch.apply abi step = { sketch with entries := sketch.entries ++ [e] } := by
  cases step with
  | setList list => cases h
  | setAction action => cases h
  | select selection => cases h
  | _ => simp only [apply, h, Option.toList_some]

/-- A step that succeeds adds to sketch and rule alike. -/
theorem Describes.apply (hmask : ∀ p ∈ abi.maskPredicates, p.field.isString = false)
    (h : sketch.Describes rule) {step : Draft.Step} {rule' : Rule}
    (heffect : Draft.Effect abi rule step rule') : (sketch.apply abi step).Describes rule' := by
  cases heffect with
  | setList list => exact ⟨h.predicates, h.trailer, h.syscalls, h.fits⟩
  | setAction action => exact ⟨h.predicates, h.trailer, h.syscalls, h.fits⟩
  | select selection syscalls hnumbers hroom =>
      refine ⟨?_, ?_, fun n => ?_, fun e he => ?_⟩
      · show rule.predicates ++ Draft.brought abi rule =
          (sketch.entries ++ sketch.named abi).map Entry.predicate
        rw [List.map_append, h.named, h.predicates]
      · show rule.trailer = (sketch.entries ++ sketch.named abi).flatMap Entry.stored
        rw [List.flatMap_append, stored_named, List.append_nil, h.trailer]
      · show syscalls.getLsbD n = true ↔ n ∈ sketch.syscalls ∪ selection.numbers abi
        rw [hnumbers, h.syscalls, Finset.mem_union]
      · rcases List.mem_append.1 he with he | he
        · exact h.fits e he
        · exact fits_named hmask e he
  | entry e hentry hfits hroom htrailer =>
      rw [apply_of_addition? hentry]
      refine ⟨?_, ?_, h.syscalls, fun e' he' => ?_⟩
      · rw [Rule.withEntry, List.map_append, h.predicates]
        rfl
      · rw [Rule.withEntry, List.flatMap_append, h.trailer, List.flatMap_singleton]
      · rcases List.mem_append.1 he' with he' | he'
        · exact h.fits e' he'
        · rwa [List.mem_singleton.1 he']

/-- The first selection names the numbering, and no entry is ever taken away. -/
theorem NamesNumbering.apply (h : sketch.NamesNumbering abi) (step : Draft.Step) :
    (sketch.apply abi step).NamesNumbering abi := by
  intro hsome p hp
  have hkept (entries : List Entry) (hentry : ∃ e ∈ sketch.entries, e.field = p.field) :
      ∃ e ∈ sketch.entries ++ entries, e.field = p.field := by
    obtain ⟨e, he, hfield⟩ := hentry
    exact ⟨e, List.mem_append_left _ he, hfield⟩
  cases step with
  | select selection =>
      by_cases hempty : sketch.syscalls = ∅
      · by_cases hentry : ∃ e ∈ sketch.entries, e.field = p.field
        · exact hkept _ hentry
        · refine ⟨⟨p.field, p.operator, .number p.value⟩, List.mem_append_right _ ?_, rfl⟩
          rw [named, if_pos hempty]
          refine List.mem_map.2 ⟨p, List.mem_filter.2 ⟨hp, ?_⟩, rfl⟩
          simpa using hentry
      · exact hkept _ (h (Finset.nonempty_iff_ne_empty.2 hempty) p hp)
  | setList list => exact h hsome p hp
  | setAction action => exact h hsome p hp
  | _ => exact hkept _ (h hsome p hp)

end Sketch

/-! ### What is read off -/

/-- Each text is cut out of the trailer again by the lengths of the predicates in front of it. -/
theorem Predicate.operands_map_predicate {entries : List Entry} (h : ∀ e ∈ entries, e.Fits) :
    operands (entries.flatMap Entry.stored) (entries.map Entry.predicate) =
      entries.map fun e => (e.predicate, e.operand) := by
  induction entries with
  | nil => rfl
  | cons e entries ih =>
      have hrest := ih fun e' he' => h e' (List.mem_cons_of_mem e he')
      have hfits := h e List.mem_cons_self
      have hvalue := hfits.toNat_value
      rw [List.map_cons, List.flatMap_cons, operands]
      cases hfits with
      | number hfield =>
          rw [if_neg (by simp [Entry.predicate, hfield])]
          exact congrArg _ hrest
      | text hfield hlength =>
          rw [if_pos (by simp [Entry.predicate, hfield]), hvalue]
          simp only [Entry.stored, Entry.size, List.take_left, List.drop_left]
          exact congrArg _ hrest

/-- The texts of a rule are those of the entries that it is laid out from. -/
theorem Sketch.Describes.strings {sketch : Sketch} {rule : Rule} (h : sketch.Describes rule) :
    rule.strings = sketch.entries.filterMap Entry.text? := by
  rw [Rule.strings, Rule.operands, h.predicates, h.trailer,
    Predicate.operands_map_predicate h.fits, List.filterMap_map]
  congr 1
  funext e
  obtain ⟨field, op, operand⟩ := e
  cases operand with
  | number value => rfl
  | text bytes => rfl

namespace SyscallSet

theorem map_toNat_members (set : SyscallSet) :
    set.members.map UInt32.toNat = (List.range maxSyscalls).filter (set.getLsbD ·) := by
  have hword (n : ℕ) (hn : n ∈ (List.range maxSyscalls).filter (set.getLsbD ·)) :
      (UInt32.ofNat n).toNat = n := by
    have hlt : n < 2048 := List.mem_range.1 (List.mem_of_mem_filter hn)
    rw [UInt32.toNat_ofNat']
    omega
  rw [members, List.map_map]
  exact (List.map_congr_left hword).trans (List.map_id _)

theorem pairwise_members (set : SyscallSet) :
    (set.members.map UInt32.toNat).Pairwise (· < ·) := by
  rw [map_toNat_members]
  exact List.pairwise_lt_range.filter _

theorem mem_members {set : SyscallSet} {n : ℕ} :
    n ∈ set.members.map UInt32.toNat ↔ set.getLsbD n = true := by
  rw [map_toNat_members, List.mem_filter, List.mem_range]
  exact ⟨fun h => h.2, fun h => ⟨BitVec.lt_of_getLsbD h, h⟩⟩

end SyscallSet

/-! ### Drafted rules -/

namespace Draft

/-- The steps that succeed when all are attempted one after the other. -/
def accepted (abi : Abi) : Draft → List Step → List Step
  | _, [] => []
  | draft, step :: steps =>
    match draft.attempt (step.edit abi) with
    | (none, draft') => step :: accepted abi draft' steps
    | (some _, draft') => accepted abi draft' steps

/-- The sketch of a rule that steps draft, the first of them from nothing. -/
def sketched (abi : Abi) (steps : List Step) : Sketch :=
  (accepted abi {} steps).foldl (Sketch.apply abi) {}

variable {abi : Abi}

theorem attemptAll_describes (hmask : ∀ p ∈ abi.maskPredicates, p.field.isString = false)
    {draft : Draft} {sketch : Sketch} (h : sketch.Describes draft.rule) (steps : List Step) :
    ((accepted abi draft steps).foldl (Sketch.apply abi) sketch).Describes
      (attemptAll abi draft steps).rule := by
  induction steps generalizing draft sketch with
  | nil => exact h
  | cons step steps ih =>
      rw [attemptAll, List.foldl_cons, ← attemptAll, accepted]
      rcases attempt_cases abi draft step with ⟨e, heq⟩ | ⟨draft', heq, heffect⟩
      · rw [heq]
        exact ih h
      · rw [heq]
        exact ih (h.apply hmask heffect)

theorem namesNumbering_foldl {sketch : Sketch} (h : sketch.NamesNumbering abi)
    (steps : List Step) : (steps.foldl (Sketch.apply abi) sketch).NamesNumbering abi := by
  induction steps generalizing sketch with
  | nil => exact h
  | cons step steps ih => exact ih (h.apply step)

theorem drafted_describes (hmask : ∀ p ∈ abi.maskPredicates, p.field.isString = false)
    (steps : List Step) : (sketched abi steps).Describes (drafted abi steps) := by
  refine attemptAll_describes hmask ⟨rfl, rfl, fun n => ?_, fun e he => absurd he List.not_mem_nil⟩
    steps
  exact iff_of_false (SyscallSet.eq_none_iff.1 rfl n) (Finset.notMem_empty n)

theorem sketched_namesNumbering (abi : Abi) (steps : List Step) :
    (sketched abi steps).NamesNumbering abi :=
  namesNumbering_foldl (fun hsome => absurd hsome Finset.not_nonempty_empty) _

/-- A rule that was drafted, whatever the steps were and whether they failed, says what the steps
that succeeded have added: its predicates are the entries, with each text replaced by its length; its
texts are those of the entries, in order; its syscalls are the selected numbers, in ascending order;
and if there are any, the fields that name the numbering have predicates. -/
theorem drafted_refines (hmask : ∀ p ∈ abi.maskPredicates, p.field.isString = false)
    (steps : List Step) :
    (drafted abi steps).predicates.map (fun p => (p.field, p.operator, p.value.toNat)) =
        (sketched abi steps).entries.map (fun e => (e.field, e.operator, e.size)) ∧
    (drafted abi steps).strings = (sketched abi steps).entries.filterMap Entry.text? ∧
    (((drafted abi steps).syscalls.members.map UInt32.toNat).Pairwise (· < ·) ∧
      ∀ n, n ∈ (drafted abi steps).syscalls.members.map UInt32.toNat ↔
        n ∈ (sketched abi steps).syscalls) ∧
    (∀ nr : UInt32, (drafted abi steps).syscalls.has nr = true ↔
      nr.toNat ∈ (sketched abi steps).syscalls) ∧
    ((sketched abi steps).syscalls.Nonempty → ∀ p ∈ abi.maskPredicates,
      ∃ q ∈ (drafted abi steps).predicates, q.field = p.field) := by
  have hdescribes := drafted_describes hmask steps
  have hnames := sketched_namesNumbering abi steps
  refine ⟨?_, hdescribes.strings, ⟨SyscallSet.pairwise_members _, fun n => ?_⟩,
    fun nr => hdescribes.syscalls nr.toNat, fun hsome p hp => ?_⟩
  · rw [hdescribes.predicates, List.map_map]
    apply List.map_congr_left
    intro e he
    simp only [Function.comp_apply, (hdescribes.fits e he).toNat_value]
    rfl
  · rw [SyscallSet.mem_members, hdescribes.syscalls]
  · obtain ⟨e, he, hfield⟩ := hnames hsome p hp
    rw [hdescribes.predicates]
    exact ⟨e.predicate, List.mem_map_of_mem he, hfield⟩

/-- A key, two syscalls and a directory. A third syscall does not fit the bitmap. -/
def keyedSteps : List Step :=
  [.addKey "sys", .select (.number 83), .select (.number 2048),
    .watchTree [0x2F, 0x65, 0x74, 0x63, 0x2F], .select (.number 2)]

theorem drafted_refines_keyedSteps :
    (∀ p ∈ Machine.x8664.abi.maskPredicates, p.field.isString = false) ∧
    (drafted Machine.x8664.abi keyedSteps).strings =
      [(.key, [0x73, 0x79, 0x73]), (.tree, [0x2F, 0x65, 0x74, 0x63])] ∧
    (drafted Machine.x8664.abi keyedSteps).syscalls.members.map UInt32.toNat = [2, 83] ∧
    ∃ q ∈ (drafted Machine.x8664.abi keyedSteps).predicates, q.field = .arch := by
  have hmask := machine_maskPredicates .x8664
  obtain ⟨-, hstrings, -, hhas, hnames⟩ := drafted_refines hmask keyedSteps
  have hselected : (drafted Machine.x8664.abi keyedSteps).syscalls.has 83 = true := by
    decide +kernel
  -- The set must not be evaluated where it is only looked into.
  generalize (sketched Machine.x8664.abi keyedSteps).syscalls = syscalls at hhas hnames
  refine ⟨hmask, hstrings.trans (by decide +kernel), by decide +kernel, ?_⟩
  exact hnames ⟨_, (hhas 83).1 hselected⟩ ⟨.arch, .equal, Arch.x8664⟩ (by decide)

end Draft

end LinuxAudit
