import Mathlib
import LinuxAudit.Proofs.Bytes
import LinuxAudit.Proofs.Rule.Drafting
import LinuxAudit.Proofs.Rule.Succeeding

/-! How long the texts of a rule may be. The edits that store a text refuse it for its length just if
it is longer than the limit, which is what the field takes or, if that is less, what is left of the
trailer: `attempt_watch`, `attempt_addText`. So the limit that a refusal reports is the greatest length
that is not refused, `pathLengths_eq` and `textLengths_eq`. `watch_exact` says what becomes of a
path that is watched. -/

namespace LinuxAudit

/-- The longest text that a rule can still take for a field. -/
def Rule.textLimit (rule : Rule) (field : Field) : ℕ :=
  min field.maxTextLength (maxTrailerLength - rule.trailer.length)

/-! ### Paths without slashes at the end -/

/-- A path without the slashes at its end; of slashes alone one is left. -/
def bare (path : Bytes) : Bytes :=
  if ∀ b ∈ path, b = 0x2F then [0x2F] else path.rdropWhile (· == 0x2F)

theorem normalPath_eq_bare {path : Bytes} (h : path ≠ []) : normalPath path = bare path := by
  have hnil : path.rdropWhile (· == 0x2F) = [] ↔ ∀ b ∈ path, b = 0x2F := by
    simp only [List.rdropWhile_eq_nil_iff, beq_iff_eq]
  rw [bare]
  by_cases hall : ∀ b ∈ path, b = 0x2F
  · obtain ⟨b, rest, rfl⟩ := List.exists_cons_of_ne_nil h
    have hstripped := hnil.2 hall
    rw [List.rdropWhile] at hstripped
    rw [if_pos hall, normalPath, hstripped, hall b List.mem_cons_self]
    rfl
  · rw [if_neg hall, normalPath, ← List.rdropWhile]
    split
    · rename_i hstripped
      exact absurd (hnil.1 hstripped) hall
    · rfl

theorem bare_append_slashes (path : Bytes) (count : ℕ) :
    bare (path ++ List.replicate count 0x2F) = bare path := by
  have hall : (∀ b ∈ path ++ List.replicate count 0x2F, b = 0x2F) ↔ ∀ b ∈ path, b = 0x2F := by
    rw [List.forall_mem_append]
    exact and_iff_left fun b hb => List.eq_of_mem_replicate hb
  rw [bare, bare, Bytes.rdropWhile_append_replicate]
  simp only [hall]

/-- A path that does not end in a slash, or is one, has none to lose. -/
theorem bare_of_getLast? {path : Bytes} (h : path = [0x2F] ∨ path.getLast? ≠ some 0x2F)
    (hpath : path ≠ []) : bare path = path := by
  rcases h with rfl | hlast
  · rw [bare, if_pos (by simp)]
  · rw [List.getLast?_eq_some_getLast hpath] at hlast
    have hends : path.getLast hpath ≠ 0x2F := fun h => hlast (congrArg some h)
    rw [bare, if_neg fun hall => hends (hall _ (List.getLast_mem hpath)),
      List.rdropWhile_eq_self_iff]
    intro _
    simpa using hends

/-- There are absolute paths of every length but zero. -/
theorem exists_length_bare {n : ℕ} (h : 0 < n) :
    ∃ path : Bytes, path.head? = some 0x2F ∧ (bare path).length = n := by
  obtain ⟨n, rfl⟩ := Nat.exists_eq_add_one.2 h
  refine ⟨0x2F :: List.replicate n 0x61, rfl, ?_⟩
  rw [bare_of_getLast? _ (List.cons_ne_nil _ _), List.length_cons, List.length_replicate]
  cases n with
  | zero => exact .inl rfl
  | succ n =>
      right
      rw [List.replicate_succ', ← List.cons_append, List.getLast?_concat]
      decide

theorem exists_length_encode (n : ℕ) : ∃ text, (Utf8.encode text).length = n := by
  have hletter : (Utf8.encodeChar 'a').length = 1 := rfl
  refine ⟨String.ofList (List.replicate n 'a'), ?_⟩
  simp [Utf8.encode, hletter]

namespace Draft

/-! ### What the attempts come to -/

/-- The edits that watch a path, each with the field that holds it. -/
inductive Watches : Field → (Bytes → Edit Unit) → Prop
  | tree : Watches .tree watchTree
  | file : Watches .path watchFile

variable {draft : Draft} {field : Field} {op : Operator} {edit : Bytes → Edit Unit}

theorem Watches.isString (h : Watches field edit) : field.isString = true := by
  cases h <;> rfl

theorem Watches.textLimit (h : Watches field edit) (rule : Rule) :
    rule.textLimit field = min maxPathLength (maxTrailerLength - rule.trailer.length) := by
  cases h <;> rfl

theorem attempt_pushText_of_full {text : Bytes} (h : draft.rule.predicates.length = maxFields) :
    draft.attempt (pushText field op text) = (some .tooManyFields, draft) := by
  simp [attempt, pushText, push, h]

theorem attempt_pushText (field : Field) (op : Operator) (text : Bytes)
    (h : draft.rule.predicates.length ≠ maxFields) :
    ∃ log, draft.attempt (pushText field op text) =
      (none, ⟨draft.rule.withEntry ⟨field, op, .text text⟩, log⟩) := by
  refine ⟨(draft.attempt (pushText field op text)).2.log, ?_⟩
  simp [attempt, pushText, push, modifyRule, h, Rule.withEntry, Entry.predicate, Entry.stored]

theorem attempt_pushText_fst {text : Bytes} : (draft.attempt (pushText field op text)).1 =
    if draft.rule.predicates.length = maxFields then some .tooManyFields else none := by
  by_cases h : draft.rule.predicates.length = maxFields
  · rw [attempt_pushText_of_full h, if_pos h]
  · obtain ⟨log, hpush⟩ := attempt_pushText field op text h
    rw [hpush, if_neg h]

theorem attempt_pushText_ne {text : Bytes} {e : RuleError} (h : e ≠ .tooManyFields) :
    (draft.attempt (pushText field op text)).1 ≠ some e := by
  rw [attempt_pushText_fst]
  split_ifs with hfull
  · exact fun he => h (Option.some.inj he).symm
  · exact nofun

/-- Every outcome of watching a path. -/
theorem attempt_watch (hedit : Watches field edit) (path : Bytes) :
    draft.attempt (edit path) =
      if path.head? = some 0x2F then
        if (bare path).length ≤ draft.rule.textLimit field then
          draft.attempt (pushText field .equal (bare path))
        else (some (.pathTooLong (bare path).length (draft.rule.textLimit field)), draft)
      else (some (.relativePath (Utf8.lossy path)), draft) := by
  have hwatch : edit path = watch field path := by cases hedit <;> rfl
  rw [hwatch, hedit.textLimit]
  by_cases habsolute : path.head? = some 0x2F
  · rw [← normalPath_eq_bare (List.ne_nil_of_mem (List.mem_of_head? habsolute))]
    by_cases hfits : (normalPath path).length ≤
        min maxPathLength (maxTrailerLength - draft.rule.trailer.length)
    · have hshort := le_min_iff.1 hfits
      simp [attempt, watch, room, habsolute, hfits, Nat.not_lt.2 hshort.1, Nat.not_lt.2 hshort.2]
    · have hlong := min_lt_iff.1 (Nat.lt_of_not_le hfits)
      simp [attempt, watch, room, habsolute, hfits, hlong]
  · simp [attempt, watch, habsolute]

/-- Every outcome of storing a text. -/
theorem attempt_addText (text : String) :
    draft.attempt (addText field op text) =
      if field.isString then
        if (Utf8.encode text).length ≤ draft.rule.textLimit field then
          draft.attempt (pushText field op (Utf8.encode text))
        else (some (.stringTooLong field (Utf8.encode text).length
          (draft.rule.textLimit field)), draft)
      else (some (.numericField field), draft) := by
  cases hfield : field.isString with
  | false => simp [attempt, addText, hfield]
  | true =>
      rw [Rule.textLimit, Field.maxTextLength]
      generalize hlimit : (if field = .key then maxKeyLength else maxPathLength) = limit
      by_cases hfits : (Utf8.encode text).length ≤
          min limit (maxTrailerLength - draft.rule.trailer.length)
      · have hshort := le_min_iff.1 hfits
        simp [attempt, addText, room, hfield, hlimit, hfits, Nat.not_lt.2 hshort.1,
          Nat.not_lt.2 hshort.2]
      · have hlong := min_lt_iff.1 (Nat.lt_of_not_le hfits)
        simp [attempt, addText, room, hfield, hlimit, hfits, hlong]

/-! ### Refusals for the length -/

theorem attempt_eq_pathTooLong_iff (hedit : Watches field edit) {path : Bytes}
    {length limit : ℕ} :
    (draft.attempt (edit path)).1 = some (.pathTooLong length limit) ↔
      path.head? = some 0x2F ∧ length = (bare path).length ∧
        limit = draft.rule.textLimit field ∧ limit < length := by
  rw [attempt_watch hedit]
  split_ifs with habsolute hfits
  · refine iff_of_false (attempt_pushText_ne nofun) ?_
    rintro ⟨-, rfl, rfl, hlong⟩
    exact Nat.not_lt.2 hfits hlong
  · constructor
    · intro h
      cases h
      exact ⟨habsolute, rfl, rfl, Nat.lt_of_not_le hfits⟩
    · rintro ⟨-, rfl, rfl, -⟩
      rfl
  · exact iff_of_false nofun fun h => habsolute h.1

theorem attempt_eq_stringTooLong_iff {text : String} {named : Field} {length limit : ℕ} :
    (draft.attempt (addText field op text)).1 = some (.stringTooLong named length limit) ↔
      field.isString = true ∧ named = field ∧ length = (Utf8.encode text).length ∧
        limit = draft.rule.textLimit field ∧ limit < length := by
  rw [attempt_addText]
  split_ifs with hfield hfits
  · refine iff_of_false (attempt_pushText_ne nofun) ?_
    rintro ⟨-, -, rfl, rfl, hlong⟩
    exact Nat.not_lt.2 hfits hlong
  · constructor
    · intro h
      cases h
      exact ⟨hfield, rfl, rfl, rfl, Nat.lt_of_not_le hfits⟩
    · rintro ⟨-, rfl, rfl, rfl, -⟩
      rfl
  · exact iff_of_false nofun fun h => hfield h.1

/-- The lengths that are not refused for an absolute path, once it is bare. -/
def pathLengths (draft : Draft) (edit : Bytes → Edit Unit) : Set ℕ :=
  {n | ∀ path, path.head? = some 0x2F → (bare path).length = n →
    ∀ length limit, (draft.attempt (edit path)).1 ≠ some (.pathTooLong length limit)}

/-- The lengths that are not refused for a text. -/
def textLengths (draft : Draft) (field : Field) (op : Operator) : Set ℕ :=
  {n | ∀ text, (Utf8.encode text).length = n → ∀ named length limit,
    (draft.attempt (addText field op text)).1 ≠ some (.stringTooLong named length limit)}

theorem pathLengths_eq (hedit : Watches field edit) :
    draft.pathLengths edit = Set.Iic (draft.rule.textLimit field) := by
  ext n
  rw [Set.mem_Iic]
  constructor
  · intro hn
    by_contra hlong
    obtain ⟨path, habsolute, hlength⟩ :=
      exists_length_bare (Nat.zero_lt_of_lt (Nat.lt_of_not_le hlong))
    refine hn path habsolute hlength n (draft.rule.textLimit field) ?_
    exact (attempt_eq_pathTooLong_iff hedit).2
      ⟨habsolute, hlength.symm, rfl, Nat.lt_of_not_le hlong⟩
  · rintro hn path - rfl length limit hrefused
    obtain ⟨-, rfl, rfl, hlong⟩ := (attempt_eq_pathTooLong_iff hedit).1 hrefused
    exact Nat.not_lt.2 hn hlong

theorem textLengths_eq (hfield : field.isString = true) :
    draft.textLengths field op = Set.Iic (draft.rule.textLimit field) := by
  ext n
  rw [Set.mem_Iic]
  constructor
  · intro hn
    by_contra hlong
    obtain ⟨text, hlength⟩ := exists_length_encode n
    refine hn text hlength field n (draft.rule.textLimit field) ?_
    exact attempt_eq_stringTooLong_iff.2
      ⟨hfield, rfl, hlength.symm, rfl, Nat.lt_of_not_le hlong⟩
  · rintro hn text rfl named length limit hrefused
    obtain ⟨-, -, rfl, rfl, hlong⟩ := attempt_eq_stringTooLong_iff.1 hrefused
    exact Nat.not_lt.2 hn hlong

/-! ### Watching -/

/-- A path is watched if it is absolute and there is room for it. -/
theorem attempt_watch_eq_none_iff (hedit : Watches field edit) {path : Bytes} :
    (draft.attempt (edit path)).1 = none ↔
      path.head? = some 0x2F ∧ (bare path).length ≤ draft.rule.textLimit field ∧
        draft.rule.predicates.length ≠ maxFields := by
  rw [attempt_watch hedit]
  split_ifs with habsolute hfits
  · rw [attempt_pushText_fst]
    simp [habsolute, hfits]
  · simp [hfits]
  · simp [habsolute]

theorem attempt_watch_of_eq_none (hedit : Watches field edit) {path : Bytes}
    (h : (draft.attempt (edit path)).1 = none) :
    (draft.attempt (edit path)).2.rule =
      draft.rule.withEntry ⟨field, .equal, .text (bare path)⟩ := by
  obtain ⟨habsolute, hfits, hfields⟩ := (attempt_watch_eq_none_iff hedit).1 h
  obtain ⟨log, hpush⟩ := attempt_pushText field .equal (bare path) hfields
  rw [attempt_watch hedit, if_pos habsolute, if_pos hfits, hpush]

/-- Slashes at the end of an absolute path make no difference. -/
theorem attempt_watch_append_slashes (hedit : Watches field edit) {path : Bytes}
    (h : path.head? = some 0x2F) (count : ℕ) :
    draft.attempt (edit (path ++ List.replicate count 0x2F)) = draft.attempt (edit path) := by
  have hhead : (path ++ List.replicate count 0x2F).head? = some 0x2F := by
    rw [List.head?_append, h, Option.some_or]
  rw [attempt_watch hedit, attempt_watch hedit, if_pos hhead, if_pos h, bare_append_slashes]

/-- A path is watched if it is absolute, short enough once it is bare, and there is a place for a
predicate; then the rule has the bare path more and nothing else. Slashes at the end make no
difference. Where a path or a text is refused for its length, the limit that is reported is the greatest
length that is not. -/
theorem watch_exact {abi : Abi} (hmask : ∀ p ∈ abi.maskPredicates, p.field.isString = false)
    (steps : List Step) {draft : Draft} (hdraft : draft.rule = drafted abi steps)
    (hedit : Watches field edit) :
    (∀ path,
      ((draft.attempt (edit path)).1 = none ↔
        path.head? = some 0x2F ∧
          (bare path).length ≤ min maxPathLength (maxTrailerLength - draft.rule.trailer.length) ∧
          draft.rule.predicates.length < maxFields) ∧
      ((draft.attempt (edit path)).1 = none →
        ∃ value : UInt32, value.toNat = (bare path).length ∧
          (draft.attempt (edit path)).2.rule =
            { draft.rule with
              predicates := draft.rule.predicates ++ [⟨field, .equal, value⟩]
              trailer := draft.rule.trailer ++ bare path })) ∧
    (∀ path count, path.head? = some 0x2F →
      draft.attempt (edit (path ++ List.replicate count 0x2F)) = draft.attempt (edit path)) ∧
    (∀ path length limit,
      (draft.attempt (edit path)).1 = some (.pathTooLong length limit) →
        IsGreatest (draft.pathLengths edit) limit) ∧
    ∀ textField op text named length limit,
      (draft.attempt (addText textField op text)).1 = some (.stringTooLong named length limit) →
        IsGreatest (draft.textLengths textField op) limit := by
  have hfields : draft.rule.predicates.length ≤ maxFields := by
    rw [hdraft]
    exact (drafted_withinLimits hmask steps).fields
  refine ⟨fun path => ⟨?_, fun h => ?_⟩, fun path count h => ?_, ?_, ?_⟩
  · rw [← hedit.textLimit, attempt_watch_eq_none_iff hedit, hfields.lt_iff_ne]
  · obtain ⟨-, hfits, -⟩ := (attempt_watch_eq_none_iff hedit).1 h
    rw [hedit.textLimit] at hfits
    have hentry : Entry.Fits ⟨field, .equal, .text (bare path)⟩ :=
      .text hedit.isString (hfits.trans (Nat.min_le_left _ _))
    exact ⟨_, hentry.toNat_value, attempt_watch_of_eq_none hedit h⟩
  · exact attempt_watch_append_slashes hedit h count
  · intro path length limit hrefused
    obtain ⟨-, -, rfl, -⟩ := (attempt_eq_pathTooLong_iff hedit).1 hrefused
    rw [pathLengths_eq hedit]
    exact isGreatest_Iic
  · intro textField op text named length limit hrefused
    obtain ⟨hfield, -, -, rfl, -⟩ := attempt_eq_stringTooLong_iff.1 hrefused
    rw [textLengths_eq hfield]
    exact isGreatest_Iic

/-- An absolute path of 4097 bytes, one more than is taken. -/
def longPath : Bytes :=
  0x2F :: List.replicate 4096 0x61

theorem bare_longPath : bare longPath = longPath := by
  refine bare_of_getLast? (.inr ?_) (List.cons_ne_nil _ _)
  rw [longPath, List.replicate_succ', ← List.cons_append, List.getLast?_concat]
  decide

theorem watch_exact_longPath :
    (∀ p ∈ Machine.x8664.abi.maskPredicates, p.field.isString = false) ∧
    (attemptAll Machine.x8664.abi {} watchSteps).rule = drafted Machine.x8664.abi watchSteps ∧
    ((attemptAll Machine.x8664.abi {} watchSteps).attempt
      (watchFile [0x2F, 0x61, 0x2F, 0x2F])).1 = none ∧
    ((attemptAll Machine.x8664.abi {} watchSteps).attempt
      (watchFile [0x2F, 0x61, 0x2F, 0x2F])).2.rule.trailer =
        [0x2F, 0x65, 0x74, 0x63, 0x2F, 0x61] ∧
    ((attemptAll Machine.x8664.abi {} watchSteps).attempt (watchFile longPath)).1 =
      some (.pathTooLong 4097 4096) ∧
    IsGreatest ((attemptAll Machine.x8664.abi {} watchSteps).pathLengths watchFile) 4096 := by
  have hmask := machine_maskPredicates .x8664
  have hrule : (drafted Machine.x8664.abi watchSteps).trailer = [0x2F, 0x65, 0x74, 0x63] ∧
      (drafted Machine.x8664.abi watchSteps).predicates.length = 2 := by
    decide +kernel
  generalize hdraft : attemptAll Machine.x8664.abi {} watchSteps = draft
  have hdrafted : draft.rule = drafted Machine.x8664.abi watchSteps := by rw [drafted, hdraft]
  obtain ⟨htaken, -, hrefused, -⟩ := watch_exact hmask watchSteps hdrafted .file
  obtain ⟨hiff, hstored⟩ := htaken [0x2F, 0x61, 0x2F, 0x2F]
  have hsucceeds := hiff.2 (by rw [hdrafted, hrule.1, hrule.2]; decide)
  obtain ⟨value, -, hpath⟩ := hstored hsucceeds
  have hlong : (draft.attempt (watchFile longPath)).1 = some (.pathTooLong 4097 4096) := by
    refine (attempt_eq_pathTooLong_iff .file).2 ⟨rfl, ?_, ?_, by decide⟩
    · rw [bare_longPath, longPath, List.length_cons, List.length_replicate]
    · rw [hdrafted, Rule.textLimit, hrule.1]
      decide
  refine ⟨hmask, hdrafted, hsucceeds, ?_, hlong, hrefused _ _ _ hlong⟩
  rw [hpath]
  show draft.rule.trailer ++ bare [0x2F, 0x61, 0x2F, 0x2F] = _
  rw [hdrafted, hrule.1]
  decide

end Draft

end LinuxAudit
