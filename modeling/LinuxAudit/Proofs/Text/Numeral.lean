import Mathlib
import LinuxAudit.Text.Numeral
import LinuxAudit.Proofs.Outcome

/-! Which texts are numbers, and which numbers they are. `natural_eq_ok_iff` says that an unsigned
number is read from digits that spell it, with a plus sign in front or not, and from nothing else;
`integer_minus_eq_ok_iff` says the same of a negative one. Written numbers spell
themselves: `spells_toDigits`, `spells_padded`. -/

namespace LinuxAudit.Numeral

/-- A character stands for a digit of a base up to sixteen. A letter may be of either case. -/
def StandsFor (base : ℕ) (c : Char) (d : ℕ) : Prop :=
  d < base ∧ (c = d.digitChar ∨ c = d.digitChar.toUpper)

/-- One digit or more, the highest first, and the number that they make. -/
def Spells (base : ℕ) (text : List Char) (n : ℕ) : Prop :=
  text ≠ [] ∧ ∃ digits, List.Forall₂ (StandsFor base) text digits ∧
    Nat.ofDigits base digits.reverse = n

/-- Digits that may have a plus sign in front. -/
def Writes (base : ℕ) (text : List Char) (n : ℕ) : Prop :=
  ∃ digits, (text = digits ∨ text = '+' :: digits) ∧ Spells base digits n

variable {base size : ℕ} {past : Fault}

/-! ### Digits -/

theorem digit?_of_standsFor (hbase : base ≤ 16) {c : Char} {d : ℕ} (h : StandsFor base c d) :
    digit? base c = some d := by
  obtain ⟨hd, hc⟩ := h
  have hsixteen : ∀ d < 16, digit? 16 d.digitChar = some d ∧
      digit? 16 d.digitChar.toUpper = some d := by decide
  have hvalue : digit? 16 c = some d := by
    rcases hc with rfl | rfl
    · exact (hsixteen d (hd.trans_le hbase)).1
    · exact (hsixteen d (hd.trans_le hbase)).2
  simp only [digit?, Option.filter_eq_some_iff, decide_eq_true_eq] at hvalue ⊢
  exact ⟨hvalue.1, hd⟩

/-- A character of a range is found again from its place in the range. -/
theorem eq_ofNat_of_range {c low high : Char} (h : low ≤ c ∧ c ≤ high) :
    c = Char.ofNat (low.toNat + (c.toNat - low.toNat)) ∧
      c.toNat - low.toNat ≤ high.toNat - low.toNat := by
  have hlow : low.toNat ≤ c.toNat := h.1
  have hhigh : c.toNat ≤ high.toNat := h.2
  rw [Nat.add_sub_cancel' hlow, Char.ofNat_toNat]
  exact ⟨rfl, Nat.sub_le_sub_right hhigh _⟩

theorem standsFor_of_digit? {c : Char} {d : ℕ} (h : digit? base c = some d) :
    StandsFor base c d := by
  rw [digit?, Option.filter_eq_some_iff, decide_eq_true_eq] at h
  obtain ⟨hvalue, hd⟩ := h
  have hdecimal : ∀ k ≤ 9, Char.ofNat ('0'.toNat + k) = k.digitChar := by decide
  have hlower : ∀ k ≤ 5, Char.ofNat ('a'.toNat + k) = (k + 10).digitChar := by decide
  have hupper : ∀ k ≤ 5, Char.ofNat ('A'.toNat + k) = (k + 10).digitChar.toUpper := by decide
  refine ⟨hd, ?_⟩
  split at hvalue
  · rename_i hrange
    cases hvalue
    obtain ⟨hc, hk⟩ := eq_ofNat_of_range hrange
    exact .inl (hc.trans (hdecimal _ hk))
  split at hvalue
  · rename_i hrange
    cases hvalue
    obtain ⟨hc, hk⟩ := eq_ofNat_of_range hrange
    exact .inl (hc.trans (hlower _ hk))
  split at hvalue
  · rename_i hrange
    cases hvalue
    obtain ⟨hc, hk⟩ := eq_ofNat_of_range hrange
    exact .inr (hc.trans (hupper _ hk))
  · cases hvalue

theorem digit?_eq_some_iff (hbase : base ≤ 16) {c : Char} {d : ℕ} :
    digit? base c = some d ↔ StandsFor base c d :=
  ⟨standsFor_of_digit?, digit?_of_standsFor hbase⟩

theorem not_standsFor (hbase : base ≤ 16) {c : Char} (hc : digit? 16 c = none) (d : ℕ) :
    ¬StandsFor base c d := by
  intro hd
  have hsixteen : StandsFor 16 c d := ⟨hd.1.trans_le hbase, hd.2⟩
  rw [digit?_of_standsFor le_rfl hsixteen] at hc
  cases hc

theorem StandsFor.le_nine {c : Char} {d : ℕ} (h : StandsFor 10 c d) : c ≤ '9' := by
  obtain ⟨hd, hc⟩ := h
  have hten : ∀ d < 10, d.digitChar ≤ '9' ∧ d.digitChar.toUpper ≤ '9' := by decide
  rcases hc with rfl | rfl
  · exact (hten d hd).1
  · exact (hten d hd).2

/-! ### Runs of digits -/

/-- A text spells a number behind a value, which is the digit in front of those of the text. -/
def SpellsBehind (base value : ℕ) (text : List Char) (n : ℕ) : Prop :=
  ∃ digits, List.Forall₂ (StandsFor base) text digits ∧
    Nat.ofDigits base (digits.reverse ++ [value]) = n

theorem spellsBehind_nil_iff {value n : ℕ} : SpellsBehind base value [] n ↔ value = n := by
  simp [SpellsBehind, Nat.ofDigits_singleton]

/-- The first digit of a text goes over into the value. -/
theorem spellsBehind_cons_iff {value n : ℕ} {c : Char} {rest : List Char} :
    SpellsBehind base value (c :: rest) n ↔
      ∃ d, StandsFor base c d ∧ SpellsBehind base (base * value + d) rest n := by
  have hmoved (d : ℕ) (digits : List ℕ) :
      Nat.ofDigits base ((d :: digits).reverse ++ [value]) =
        Nat.ofDigits base (digits.reverse ++ [base * value + d]) := by
    simp only [List.reverse_cons, Nat.ofDigits_append, Nat.ofDigits_singleton, List.length_append,
      List.length_singleton]
    ring
  constructor
  · rintro ⟨_, hdigits, rfl⟩
    obtain ⟨d, digits, hd, hrest, rfl⟩ := List.forall₂_cons_left_iff.1 hdigits
    exact ⟨d, hd, digits, hrest, (hmoved d digits).symm⟩
  · rintro ⟨d, hd, digits, hrest, rfl⟩
    exact ⟨d :: digits, .cons hd hrest, hmoved d digits⟩

theorem SpellsBehind.le (hbase : 0 < base) {value n : ℕ} {text : List Char}
    (h : SpellsBehind base value text n) : value ≤ n := by
  obtain ⟨digits, -, rfl⟩ := h
  calc value ≤ base ^ digits.reverse.length * value :=
        Nat.le_mul_of_pos_left value (Nat.pow_pos hbase)
    _ ≤ Nat.ofDigits base digits.reverse + base ^ digits.reverse.length * value :=
        Nat.le_add_left _ _
    _ = Nat.ofDigits base (digits.reverse ++ [value]) := by
        rw [Nat.ofDigits_append, Nat.ofDigits_singleton]

theorem spells_iff {text : List Char} {n : ℕ} :
    Spells base text n ↔ text ≠ [] ∧ SpellsBehind base 0 text n := by
  simp only [Spells, SpellsBehind, Nat.ofDigits_append_zero]

theorem not_spells_nil (n : ℕ) : ¬Spells base [] n := by
  intro h
  exact h.1 rfl

theorem Spells.exists_digit {text : List Char} {n : ℕ} (h : Spells base text n) {c : Char}
    (hc : c ∈ text) : ∃ d, StandsFor base c d := by
  obtain ⟨-, digits, hdigits, -⟩ := h
  induction hdigits with
  | nil => exact absurd hc List.not_mem_nil
  | cons hd hrest ih =>
      rcases List.mem_cons.1 hc with rfl | hc
      · exact ⟨_, hd⟩
      · exact ih hc

/-- A character that is no digit is in no text that spells a number. -/
theorem Spells.not_mem (hbase : base ≤ 16) {text : List Char} {n : ℕ} (h : Spells base text n)
    {c : Char} (hc : digit? 16 c = none) : c ∉ text := by
  intro hmem
  obtain ⟨d, hd⟩ := h.exists_digit hmem
  exact not_standsFor hbase hc d hd

/-- Zeros in front do not count. -/
theorem Spells.behind_zeros (hbase : 0 < base) {text : List Char} {n : ℕ} (h : Spells base text n)
    (count : ℕ) : Spells base (List.replicate count '0' ++ text) n := by
  induction count with
  | zero => exact h
  | succ count ih =>
      have hzero : StandsFor base '0' 0 := ⟨hbase, .inl rfl⟩
      rw [List.replicate_succ, List.cons_append]
      exact spells_iff.2
        ⟨List.cons_ne_nil _ _, spellsBehind_cons_iff.2 ⟨0, hzero, (spells_iff.1 ih).2⟩⟩

/-- The digits of a number spell it. The induction takes off the last digit. -/
theorem spells_toDigits (hone : 1 < base) (n : ℕ) : Spells base (Nat.toDigits base n) n := by
  refine ⟨Nat.toDigits_ne_nil, ?_⟩
  induction n using Nat.base_induction base hone with
  | single d hd =>
      rw [Nat.toDigits_of_lt_base hd]
      exact ⟨[d], .cons ⟨hd, .inl rfl⟩ .nil, Nat.ofDigits_singleton⟩
  | digit n d hd hpos ih =>
      obtain ⟨digits, hdigits, hn⟩ := ih
      refine ⟨digits ++ [d], ?_, ?_⟩
      · rw [← Nat.toDigits_append_toDigits hone hpos hd, Nat.toDigits_of_lt_base hd]
        exact List.rel_append hdigits (.cons ⟨hd, .inl rfl⟩ .nil)
      · rw [List.reverse_append, List.reverse_singleton, List.singleton_append,
          Nat.ofDigits_cons, hn, Nat.add_comm]

/-! ### Reading digits -/

/-- One digit is read, and the value with it must be below the limit. -/
theorem magnitude_cons_eq_ok_iff (hbase : base ≤ 16) {value n : ℕ} {c : Char} {rest : List Char} :
    magnitude base size past value (c :: rest) = .ok n ↔
      ∃ d, StandsFor base c d ∧ base * value + d < size ∧
        magnitude base size past (base * value + d) rest = .ok n := by
  simp only [magnitude, ← digit?_eq_some_iff hbase]
  cases digit? base c with
  | none => simp
  | some d =>
      simp only [Option.some.injEq, exists_eq_left']
      by_cases hfits : base * value + d < size
      · rw [if_pos hfits, and_iff_right hfits]
      · rw [if_neg hfits]
        exact ⟨fun h => (nomatch h), fun h => absurd h.1 hfits⟩

/-- Digits are read behind a value exactly if the number that they spell there is below the limit.
The value only grows on the way, so a number that respects the limit never gets past it. -/
theorem magnitude_eq_ok_iff (hbase : base ≤ 16) {value n : ℕ} {c : Char} {rest : List Char} :
    magnitude base size past value (c :: rest) = .ok n ↔
      n < size ∧ SpellsBehind base value (c :: rest) n := by
  induction rest generalizing c value with
  | nil =>
      rw [magnitude_cons_eq_ok_iff hbase, spellsBehind_cons_iff]
      simp only [magnitude, Except.ok.injEq, spellsBehind_nil_iff]
      constructor
      · rintro ⟨d, hd, hfits, rfl⟩
        exact ⟨hfits, d, hd, rfl⟩
      · rintro ⟨hn, d, hd, rfl⟩
        exact ⟨d, hd, hn, rfl⟩
  | cons c' rest ih =>
      rw [magnitude_cons_eq_ok_iff hbase, spellsBehind_cons_iff]
      simp only [ih]
      constructor
      · rintro ⟨d, hd, -, hn, hrest⟩
        exact ⟨hn, d, hd, hrest⟩
      · rintro ⟨hn, d, hd, hrest⟩
        have hpos : 0 < base := Nat.zero_lt_of_lt hd.1
        exact ⟨d, hd, (hrest.le hpos).trans_lt hn, hn, hrest⟩

theorem magnitude_zero_eq_ok_iff (hbase : base ≤ 16) {n : ℕ} {c : Char} {rest : List Char} :
    magnitude base size past 0 (c :: rest) = .ok n ↔ n < size ∧ Spells base (c :: rest) n := by
  rw [magnitude_eq_ok_iff hbase, spells_iff, and_iff_right (List.cons_ne_nil _ _)]

/-! ### Numbers with a sign -/

theorem natural_of_ne_plus {c : Char} {rest : List Char} (hc : c ≠ '+') :
    natural base size (c :: rest) = magnitude base size .tooLarge 0 (c :: rest) := by
  unfold natural
  split
  · rename_i h
    cases h
  · rename_i h
    exact absurd (List.cons.inj h).1 hc
  · rename_i h
    exact absurd (List.cons.inj h).1 hc
  · rfl

theorem writes_cons_iff {c : Char} {rest : List Char} {n : ℕ} :
    Writes base (c :: rest) n ↔ Spells base (c :: rest) n ∨ c = '+' ∧ Spells base rest n := by
  simp [Writes, or_and_right, exists_or]

theorem Spells.writes {text : List Char} {n : ℕ} (h : Spells base text n) : Writes base text n :=
  ⟨text, .inl rfl, h⟩

theorem Writes.not_mem (hbase : base ≤ 16) {text : List Char} {n : ℕ} (h : Writes base text n)
    {c : Char} (hc : digit? 16 c = none) (hplus : c ≠ '+') : c ∉ text := by
  obtain ⟨digits, rfl | rfl, hspells⟩ := h
  · exact hspells.not_mem hbase hc
  · exact List.not_mem_cons_of_ne_of_not_mem hplus (hspells.not_mem hbase hc)

/-- A number is read from digits that spell it, with a plus sign in front or not, if it is below
the limit. -/
theorem natural_eq_ok_iff (hbase : base ≤ 16) {text : List Char} {n : ℕ} :
    natural base size text = .ok n ↔ n < size ∧ Writes base text n := by
  have hplus (rest : List Char) : ¬Spells base ('+' :: rest) n := fun h =>
    h.not_mem hbase rfl List.mem_cons_self
  cases text with
  | nil => simp [natural, Writes, not_spells_nil]
  | cons c rest =>
      rw [writes_cons_iff]
      by_cases hc : c = '+'
      · subst hc
        cases rest with
        | nil => simp [natural, hplus, not_spells_nil]
        | cons d rest =>
            have hread : natural base size ('+' :: d :: rest) =
                magnitude base size .tooLarge 0 (d :: rest) := rfl
            rw [hread, magnitude_zero_eq_ok_iff hbase]
            simp [hplus]
      · rw [natural_of_ne_plus hc, magnitude_zero_eq_ok_iff hbase]
        simp [hc]

/-- A negative number is read from a minus sign and digits that spell its magnitude, if that is at
most half the number of values. -/
theorem integer_minus_eq_ok_iff {digits : List Char} {i : ℤ} :
    integer size ('-' :: digits) = .ok i ↔
      ∃ m, Spells 10 digits m ∧ m ≤ size / 2 ∧ i = -(m : ℤ) := by
  cases digits with
  | nil => simp [integer, not_spells_nil]
  | cons c rest =>
      have hread : integer size ('-' :: c :: rest) =
          magnitude 10 (size / 2 + 1) .tooSmall 0 (c :: rest) >>= fun m => .ok (-(m : ℤ)) := rfl
      rw [hread]
      simp only [except_bind_eq_ok_iff, magnitude_zero_eq_ok_iff (show 10 ≤ 16 by decide),
        Except.ok.injEq, Nat.lt_succ_iff]
      constructor
      · rintro ⟨m, ⟨hm, hspells⟩, rfl⟩
        exact ⟨m, hspells, hm, rfl⟩
      · rintro ⟨m, hspells, hm, rfl⟩
        exact ⟨m, ⟨hm, hspells⟩, rfl⟩

/-! ### Written numbers -/

theorem toList_toString (n : ℕ) : (toString n).toList = Nat.toDigits 10 n :=
  String.toList_ofList

theorem toList_hex (n : ℕ) : (hex n).toList = '0' :: 'x' :: Nat.toDigits 16 n := by
  rw [hex, String.toList_append, String.toList_ofList, String.toList_ofList, List.cons_append,
    List.cons_append, List.nil_append]

theorem spells_toString (n : ℕ) : Spells 10 (toString n).toList n := by
  rw [toList_toString]
  exact spells_toDigits (by decide) n

/-- Zeros that fill a number up to some width do not change it. -/
theorem spells_padded (width n : ℕ) : Spells 10 (padded width n).toList n := by
  rw [padded, String.toList_ofList]
  exact (spells_toDigits (by decide) n).behind_zeros (by decide) _

/-- A number below the limit is read back from its digits. -/
theorem natural_toDigits (hone : 1 < base) (hbase : base ≤ 16) {n : ℕ} (hn : n < size) :
    natural base size (Nat.toDigits base n) = .ok n :=
  (natural_eq_ok_iff hbase).2 ⟨hn, (spells_toDigits hone n).writes⟩

/-- What is read as a decimal number starts with a digit or a plus sign. -/
theorem head_of_natural {text : List Char} {n : ℕ} (h : natural 10 size text = .ok n) :
    ∃ c rest, text = c :: rest ∧ c ≤ '9' := by
  obtain ⟨-, hwrites⟩ := (natural_eq_ok_iff (by decide)).1 h
  cases text with
  | nil => cases h
  | cons c rest =>
      refine ⟨c, rest, rfl, ?_⟩
      rcases writes_cons_iff.1 hwrites with hspells | ⟨rfl, -⟩
      · obtain ⟨d, hd⟩ := hspells.exists_digit List.mem_cons_self
        exact hd.le_nine
      · decide

end LinuxAudit.Numeral
