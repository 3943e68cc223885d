import Mathlib
import LinuxAudit.Proofs.Text.Numeral
import LinuxAudit.Rule.Draft

/-! The numbers of field expressions, words of 32 bits. A word has decimal, hexadecimal and negative
forms, and `numberOperand?_exact` says that it is read from these and from nothing else; the forms
that words are written in are among them. -/

namespace LinuxAudit

/-- The written forms of a number, and the word that each stands for. -/
inductive NumberForm (text : List Char) (n : UInt32) : Prop
  | decimal (h : Numeral.Writes 10 text n.toNat)
  | hexadecimal (digits : List Char) (htext : text = '0' :: 'x' :: digits)
      (h : Numeral.Writes 16 digits n.toNat)
  /-- A negative number stands for its two's complement. -/
  | negative (digits : List Char) (m : ℕ) (htext : text = '-' :: digits)
      (h : Numeral.Spells 10 digits m) (hm : m ≤ 2 ^ 31) (hn : n.toNat = (2 ^ 32 - m) % 2 ^ 32)

theorem map_natural_eq_some_iff {base : ℕ} (hbase : base ≤ 16) {text : List Char} {n : UInt32} :
    (Numeral.natural base UInt32.size text).toOption.map UInt32.ofNat = some n ↔
      Numeral.Writes base text n.toNat := by
  simp only [Option.map_eq_some_iff, except_toOption_eq_some_iff, Numeral.natural_eq_ok_iff hbase]
  constructor
  · rintro ⟨m, ⟨hm, hwrites⟩, rfl⟩
    rwa [UInt32.toNat_ofNat_of_lt' hm]
  · intro hwrites
    exact ⟨n.toNat, ⟨n.toNat_lt_size, hwrites⟩, UInt32.ofNat_toNat⟩

theorem toNat_ofInt_neg {m : ℕ} (hm : m ≤ 2 ^ 31) :
    (UInt32.ofInt (-(m : ℤ))).toNat = (2 ^ 32 - m) % 2 ^ 32 := by
  rw [UInt32.ofInt, UInt32.toNat_ofNat']
  omega

theorem map_integer_eq_some_iff {digits : List Char} {n : UInt32} :
    (Numeral.integer UInt32.size ('-' :: digits)).toOption.map UInt32.ofInt = some n ↔
      ∃ m, Numeral.Spells 10 digits m ∧ m ≤ 2 ^ 31 ∧ n.toNat = (2 ^ 32 - m) % 2 ^ 32 := by
  simp only [Option.map_eq_some_iff, except_toOption_eq_some_iff, Numeral.integer_minus_eq_ok_iff]
  constructor
  · rintro ⟨_, ⟨m, hspells, hm, rfl⟩, rfl⟩
    exact ⟨m, hspells, hm, toNat_ofInt_neg hm⟩
  · rintro ⟨m, hspells, hm, hn⟩
    refine ⟨-(m : ℤ), ⟨m, hspells, hm, rfl⟩, ?_⟩
    apply UInt32.toNat_inj.1
    rw [toNat_ofInt_neg hm, hn]

/-- A number is read from its written forms and from nothing else. The beginning of a text tells
which form it can have. -/
theorem numberOperand?_eq_some_iff {text : String} {n : UInt32} :
    numberOperand? text = some n ↔ NumberForm text.toList n := by
  rw [numberOperand?]
  split
  · rename_i digits htext
    rw [map_natural_eq_some_iff (by decide)]
    refine ⟨.hexadecimal digits htext, fun h => ?_⟩
    cases h with
    | decimal h =>
        have hx : 'x' ∈ text.toList := by simp [htext]
        exact absurd hx (h.not_mem (by decide) rfl (by decide))
    | hexadecimal digits' htext' h =>
        cases htext.symm.trans htext'
        exact h
    | negative digits' m htext' => cases htext.symm.trans htext'
  · rename_i digits htext
    rw [map_integer_eq_some_iff]
    constructor
    · rintro ⟨m, hspells, hm, hn⟩
      exact .negative digits m htext hspells hm hn
    · intro h
      cases h with
      | decimal h =>
          have hminus : '-' ∈ text.toList := by simp [htext]
          exact absurd hminus (h.not_mem (by decide) rfl (by decide))
      | hexadecimal digits' htext' => cases htext.symm.trans htext'
      | negative digits' m htext' hspells hm hn =>
          cases htext.symm.trans htext'
          exact ⟨m, hspells, hm, hn⟩
  · rename_i hhex hminus
    rw [map_natural_eq_some_iff (by decide)]
    refine ⟨.decimal, fun h => ?_⟩
    cases h with
    | decimal h => exact h
    | hexadecimal digits htext => exact absurd htext (hhex digits)
    | negative digits m htext => exact absurd htext (hminus digits)

/-! ### Written numbers -/

theorem numberOperand?_decimal (n : UInt32) : numberOperand? (toString n.toNat) = some n := by
  apply numberOperand?_eq_some_iff.2
  exact .decimal (Numeral.spells_toString _).writes

theorem numberOperand?_hex (n : UInt32) : numberOperand? (Numeral.hex n.toNat) = some n := by
  apply numberOperand?_eq_some_iff.2
  exact .hexadecimal _ (Numeral.toList_hex _) (Numeral.spells_toDigits (by decide) _).writes

/-- The bits of a signed word as a number: its two's complement. -/
theorem toInt_eq (i : Int32) :
    i.toInt = i.toUInt32.toNat ∨ i.toInt = i.toUInt32.toNat - 2 ^ 32 := by
  have hbits := BitVec.toInt_eq_toNat_cond i.toBitVec
  split at hbits
  · exact .inl hbits
  · exact .inr hbits

theorem numberOperand?_signed (i : Int32) :
    numberOperand? (toString i.toInt) = some i.toUInt32 := by
  have hbits := toInt_eq i
  have hlow := i.le_toInt
  have hword := i.toUInt32.toNat_lt
  cases hi : i.toInt with
  | ofNat m =>
      rw [hi] at hbits
      have hm : i.toUInt32.toNat = m := by
        rw [Int.ofNat_eq_natCast] at hbits
        omega
      show numberOperand? (toString m) = some i.toUInt32
      rw [← hm]
      exact numberOperand?_decimal _
  | negSucc m =>
      rw [hi, Int.negSucc_eq] at hbits hlow
      have htext : (toString (Int.negSucc m)).toList = '-' :: (toString (m + 1)).toList :=
        String.toList_append
      apply numberOperand?_eq_some_iff.2
      exact .negative _ (m + 1) htext (Numeral.spells_toString _) (by omega) (by omega)

/-- A text is read as a word exactly if it is a written form of the word. In particular the decimal
and the hexadecimal form of a word are read back, and so is a signed word, as the word of the same
bits. -/
theorem numberOperand?_exact :
    (∀ text n, numberOperand? text = some n ↔ NumberForm text.toList n) ∧
    (∀ n : UInt32, numberOperand? (toString n.toNat) = some n ∧
      numberOperand? (Numeral.hex n.toNat) = some n) ∧
    (∀ i : Int32, numberOperand? (toString i.toInt) = some i.toUInt32) := by
  refine ⟨?_, ?_, ?_⟩
  · intro text n
    exact numberOperand?_eq_some_iff
  · intro n
    exact ⟨numberOperand?_decimal n, numberOperand?_hex n⟩
  · intro i
    exact numberOperand?_signed i

end LinuxAudit
