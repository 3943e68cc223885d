import Mathlib
import LinuxAudit.Text.Utf8

/-! UTF-8 text is read back from its bytes: `lossy_encode`, `decode?_encode`. The bytes of a character
are read one after the other: the lead byte gives the upper bits of its value (`lead?_two`,
`exists_lead?_three`, `exists_lead?_four`), and each byte that follows gives six more
(`piecesFrom_more`, `piecesFrom_last`). A byte with a clear upper bit is a character of its own
wherever it stands: `not_mem_encode`, `rdropWhile_encode`. -/

namespace LinuxAudit.Utf8

theorem toNat_ofNat {n : ℕ} (h : n < 0x100) : (UInt8.ofNat n).toNat = n :=
  UInt8.toNat_ofNat_of_lt' h

/-! ### Lead bytes -/

theorem lead?_two {upper : ℕ} (hlow : 2 ≤ upper) (hhigh : upper < 0x20) :
    lead? (UInt8.ofNat (0xC0 + upper)) =
      some ⟨upper, [UInt8.ofNat (0xC0 + upper)], 0x80, 0xBF, 0⟩ := by
  simp only [lead?, toNat_ofNat (show 0xC0 + upper < 0x100 by omega)]
  rw [if_neg (by omega), if_pos (by omega), Nat.add_sub_cancel_left]

/-- The second byte of three gives six bits, but no overlong form and no surrogate. -/
theorem exists_lead?_three {upper middle : ℕ} (hupper : upper < 0x10) (hmiddle : middle < 0x40)
    (hoverlong : upper = 0 → 0x20 ≤ middle) (hsurrogate : upper = 0xD → middle < 0x20) :
    ∃ low high, lead? (UInt8.ofNat (0xE0 + upper)) =
        some ⟨upper, [UInt8.ofNat (0xE0 + upper)], low, high, 1⟩ ∧
      low ≤ 0x80 + middle ∧ 0x80 + middle ≤ high := by
  simp only [lead?, toNat_ofNat (show 0xE0 + upper < 0x100 by omega)]
  rw [if_neg (by omega), if_neg (by omega)]
  by_cases hzero : upper = 0
  · rw [if_pos (by omega), hzero]
    exact ⟨_, _, rfl, by omega, by omega⟩
  · rw [if_neg (by omega)]
    by_cases hthirteen : upper = 0xD
    · rw [if_pos (by omega), hthirteen]
      exact ⟨_, _, rfl, by omega, by omega⟩
    · rw [if_neg (by omega), if_pos (by omega), Nat.add_sub_cancel_left]
      exact ⟨_, _, rfl, by omega, by omega⟩

/-- The second byte of four gives six bits, but no overlong form and nothing past the last code
point. -/
theorem exists_lead?_four {upper middle : ℕ} (hupper : upper < 5) (hmiddle : middle < 0x40)
    (hoverlong : upper = 0 → 0x10 ≤ middle) (hpast : upper = 4 → middle < 0x10) :
    ∃ low high, lead? (UInt8.ofNat (0xF0 + upper)) =
        some ⟨upper, [UInt8.ofNat (0xF0 + upper)], low, high, 2⟩ ∧
      low ≤ 0x80 + middle ∧ 0x80 + middle ≤ high := by
  simp only [lead?, toNat_ofNat (show 0xF0 + upper < 0x100 by omega)]
  rw [if_neg (by omega), if_neg (by omega), if_neg (by omega), if_neg (by omega),
    if_neg (by omega)]
  by_cases hzero : upper = 0
  · rw [if_pos (by omega), hzero]
    exact ⟨_, _, rfl, by omega, by omega⟩
  · rw [if_neg (by omega)]
    by_cases hfour : upper = 4
    · rw [if_neg (by omega), if_pos (by omega), hfour]
      exact ⟨_, _, rfl, by omega, by omega⟩
    · rw [if_pos (by omega), Nat.add_sub_cancel_left]
      exact ⟨_, _, rfl, by omega, by omega⟩

/-! ### Reading a character -/

theorem piecesFrom_ascii {n : ℕ} (hn : n < 0x80) (rest : Bytes) :
    piecesFrom none (UInt8.ofNat n :: rest) = .char (Char.ofNat n) :: piecesFrom none rest := by
  have hbyte := toNat_ofNat (show n < 0x100 by omega)
  rw [piecesFrom, step, begin, hbyte, if_pos hn]
  rfl

theorem piecesFrom_lead {b : UInt8} {p : Pending} (hb : 0x80 ≤ b.toNat) (hp : lead? b = some p)
    (rest : Bytes) : piecesFrom none (b :: rest) = piecesFrom (some p) rest := by
  rw [piecesFrom, step, begin, if_neg (Nat.not_lt.2 hb), hp]
  rfl

section

variable {value low high bits : ℕ} {seen : Bytes} (hbits : bits < 0x40)
  (hlow : low ≤ 0x80 + bits) (hhigh : 0x80 + bits ≤ high)

include hbits hlow hhigh

theorem piecesFrom_more (more : ℕ) (rest : Bytes) :
    piecesFrom (some ⟨value, seen, low, high, more + 1⟩) (UInt8.ofNat (0x80 + bits) :: rest) =
      piecesFrom (some ⟨value * 0x40 + bits, seen ++ [UInt8.ofNat (0x80 + bits)], 0x80, 0xBF, more⟩)
        rest := by
  have hbyte := toNat_ofNat (show 0x80 + bits < 0x100 by omega)
  rw [piecesFrom, step, hbyte, if_pos ⟨hlow, hhigh⟩, Nat.add_sub_cancel_left]
  rfl

theorem piecesFrom_last (rest : Bytes) :
    piecesFrom (some ⟨value, seen, low, high, 0⟩) (UInt8.ofNat (0x80 + bits) :: rest) =
      .char (Char.ofNat (value * 0x40 + bits)) :: piecesFrom none rest := by
  have hbyte := toNat_ofNat (show 0x80 + bits < 0x100 by omega)
  rw [piecesFrom, step, hbyte, if_pos ⟨hlow, hhigh⟩, Nat.add_sub_cancel_left]
  rfl

end

/-- The bytes of a character are read as the character, whatever follows them. -/
theorem piecesFrom_encodeChar (c : Char) (rest : Bytes) :
    piecesFrom none (encodeChar c ++ rest) = .char c :: piecesFrom none rest := by
  have hvalid : c.toNat < 0xD800 ∨ 0xDFFF < c.toNat ∧ c.toNat < 0x110000 := c.valid
  have hback : Char.ofNat c.toNat = c := Char.ofNat_toNat c
  generalize hn : c.toNat = n at hvalid hback
  have hlast : n % 0x40 < 0x40 := Nat.mod_lt _ (by decide)
  have hmiddle : n / 0x40 % 0x40 < 0x40 := Nat.mod_lt _ (by decide)
  simp only [encodeChar, hn]
  split
  · rename_i hone
    rw [List.singleton_append, piecesFrom_ascii hone, hback]
  split
  · rename_i hone htwo
    have hvalue : n / 0x40 * 0x40 + n % 0x40 = n := by omega
    rw [List.cons_append, List.singleton_append,
      piecesFrom_lead (by rw [toNat_ofNat] <;> omega) (lead?_two (by omega) (by omega)),
      piecesFrom_last hlast (by omega) (by omega), hvalue, hback]
  split
  · rename_i hone htwo hthree
    have hvalue : (n / 0x1000 * 0x40 + n / 0x40 % 0x40) * 0x40 + n % 0x40 = n := by omega
    obtain ⟨low, high, hlead, hlow, hhigh⟩ :=
      exists_lead?_three (show n / 0x1000 < 0x10 by omega) hmiddle (by omega) (by omega)
    simp only [List.cons_append, List.nil_append]
    rw [piecesFrom_lead (by rw [toNat_ofNat] <;> omega) hlead,
      piecesFrom_more hmiddle hlow hhigh, piecesFrom_last hlast (by omega) (by omega), hvalue,
      hback]
  · rename_i hone htwo hthree
    have hsecond : n / 0x1000 % 0x40 < 0x40 := Nat.mod_lt _ (by decide)
    have hvalue : ((n / 0x40000 * 0x40 + n / 0x1000 % 0x40) * 0x40 + n / 0x40 % 0x40) * 0x40 +
        n % 0x40 = n := by omega
    obtain ⟨low, high, hlead, hlow, hhigh⟩ :=
      exists_lead?_four (show n / 0x40000 < 5 by omega) hsecond (by omega) (by omega)
    simp only [List.cons_append, List.nil_append]
    rw [piecesFrom_lead (by rw [toNat_ofNat] <;> omega) hlead,
      piecesFrom_more hsecond hlow hhigh, piecesFrom_more hmiddle (by omega) (by omega),
      piecesFrom_last hlast (by omega) (by omega), hvalue, hback]

theorem pieces_encode (text : String) : pieces (encode text) = text.toList.map .char := by
  rw [pieces, encode]
  induction text.toList with
  | nil => rfl
  | cons c cs ih => rw [List.flatMap_cons, piecesFrom_encodeChar, ih, List.map_cons]

/-- A text is read back from its bytes. -/
theorem lossy_encode (text : String) : lossy (encode text) = text := by
  have hshown : Piece.shown ∘ Piece.char = id := rfl
  rw [lossy, pieces_encode, List.map_map, hshown, List.map_id, String.ofList_toList]

theorem decode?_encode (text : String) : decode? (encode text) = some text := by
  have hchars (cs : List Char) : (cs.map Piece.char).mapM Piece.char? = some cs := by
    induction cs with
    | nil => rfl
    | cons c cs ih => simp [Piece.char?, ih]
  rw [decode?, pieces_encode, hchars, Option.map_some, String.ofList_toList]

/-! ### Bytes of a text -/

theorem encode_append (s t : String) : encode (s ++ t) = encode s ++ encode t := by
  rw [encode, String.toList_append, List.flatMap_append]
  rfl

/-- A byte below 0x80 is found in the bytes of the character that it is, and of no other. -/
theorem eq_ofNat_of_mem_encodeChar {c : Char} {b : UInt8} (hb : b.toNat < 0x80)
    (h : b ∈ encodeChar c) : c = Char.ofNat b.toNat := by
  have hvalid : c.toNat < 0xD800 ∨ 0xDFFF < c.toNat ∧ c.toNat < 0x110000 := c.valid
  -- Every byte of a longer character has its upper bit set.
  have hupper {n : ℕ} (hlow : 0x80 ≤ n) (hhigh : n < 0x100) : b ≠ UInt8.ofNat n := by
    rintro rfl
    rw [toNat_ofNat hhigh] at hb
    exact Nat.not_lt_of_le hlow hb
  simp only [encodeChar] at h
  split at h
  · rename_i hone
    rw [List.mem_singleton] at h
    rw [h, toNat_ofNat (by omega), Char.ofNat_toNat]
  · exfalso
    split at h
    · simp only [List.mem_cons, List.not_mem_nil, or_false] at h
      rcases h with h | h <;> exact hupper (by omega) (by omega) h
    split at h
    · simp only [List.mem_cons, List.not_mem_nil, or_false] at h
      rcases h with h | h | h <;> exact hupper (by omega) (by omega) h
    · simp only [List.mem_cons, List.not_mem_nil, or_false] at h
      rcases h with h | h | h | h <;> exact hupper (by omega) (by omega) h

theorem not_mem_encode {b : UInt8} (hb : b.toNat < 0x80) {text : String}
    (htext : Char.ofNat b.toNat ∉ text.toList) : b ∉ encode text := by
  intro h
  obtain ⟨c, hc, hbyte⟩ := List.mem_flatMap.1 h
  rw [eq_ofNat_of_mem_encodeChar hb hbyte] at hc
  exact htext hc

theorem exists_encodeChar_eq_concat (c : Char) : ∃ front b, encodeChar c = front ++ [b] := by
  simp only [encodeChar]
  split
  · exact ⟨[], _, rfl⟩
  split
  · exact ⟨[_], _, rfl⟩
  split
  · exact ⟨[_, _], _, rfl⟩
  · exact ⟨[_, _, _], _, rfl⟩

/-- The bytes of a text end in zero only if the text does. -/
theorem rdropWhile_encode {text : String} (h : text.toList.getLast? ≠ some '\x00') :
    (encode text).rdropWhile (· == 0) = encode text := by
  rw [encode]
  rcases List.eq_nil_or_concat text.toList with hnil | ⟨cs, c, hcs⟩
  · rw [hnil]
    rfl
  · obtain ⟨front, b, hb⟩ := exists_encodeChar_eq_concat c
    have hne : ¬(b == 0) = true := by
      rw [beq_iff_eq]
      rintro rfl
      have hzero : c = Char.ofNat 0 :=
        eq_ofNat_of_mem_encodeChar (b := 0) (by decide) (by simp [hb])
      rw [hcs, List.concat_eq_append, List.getLast?_concat, hzero] at h
      exact h rfl
    rw [hcs, List.concat_eq_append, List.flatMap_append, List.flatMap_singleton, hb,
      ← List.append_assoc, List.rdropWhile_concat_neg (· == 0) _ _ hne]

end LinuxAudit.Utf8
