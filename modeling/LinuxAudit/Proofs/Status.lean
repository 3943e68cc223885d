import Mathlib
import LinuxAudit.Proofs.Bytes
import LinuxAudit.Status

/-! A status of any length. A byte string is read as a status exactly if it is not shorter than the
shortest one, and what counts of it are its whole words, eleven at most: `decode_any_length`. -/

namespace LinuxAudit.Status

/-- The bytes of a byte string that count in a status, and zeros in place of what is missing. -/
def wholeWords (data : Bytes) : Bytes :=
  (data.take (4 * min 11 (data.length / 4))).rightpad 44 0

/-- What is left of a status of which only the first bytes are there: the words that lie wholly
within them, and zero for the others. -/
def received (status : Status) (size : ℕ) : Status :=
  ofWords (status.words.mapIdx fun place word => if 4 * (place + 1) ≤ size then word else 0)

/-! ### The words of a status -/

theorem ofWords_words (status : Status) : ofWords status.words = status := rfl

theorem words_ofWords (ws : List UInt32) :
    (ofWords ws).words = (List.range 11).map fun place => ws.getD place 0 := rfl

theorem ofWords_congr {vs ws : List UInt32}
    (h : ∀ place < 11, vs.getD place 0 = ws.getD place 0) : ofWords vs = ofWords ws := by
  have hwords : (ofWords vs).words = (ofWords ws).words := by
    rw [words_ofWords, words_ofWords]
    apply List.map_congr_left
    intro place hplace
    exact h place (List.mem_range.1 hplace)
  calc ofWords vs = ofWords (ofWords vs).words := (ofWords_words _).symm
    _ = ofWords (ofWords ws).words := by rw [hwords]
    _ = ofWords ws := ofWords_words _

/-- A status made of words has the first eleven of them, and zeros where there are fewer. -/
theorem words_ofWords_eq (ws : List UInt32) :
    (ofWords ws).words = ws.take 11 ++ List.replicate (11 - ws.length) 0 := by
  rw [words_ofWords]
  apply List.ext_getElem
  · rw [List.length_map, List.length_range, List.length_append, List.length_take,
      List.length_replicate]
    omega
  · intro place hleft hright
    have hplace : place < 11 := by simpa using hleft
    rw [List.getElem_map, List.getElem_range, List.getD_eq_getElem?_getD]
    by_cases hthere : place < ws.length
    · have hkept : place < (ws.take 11).length := by
        rw [List.length_take]
        exact lt_min hplace hthere
      rw [List.getElem?_eq_getElem hthere, Option.getD_some, List.getElem_append_left hkept,
        List.getElem_take]
    · have hbehind : (ws.take 11).length ≤ place := by
        rw [List.length_take]
        exact (min_le_right _ _).trans (Nat.le_of_not_lt hthere)
      rw [List.getElem?_eq_none (Nat.le_of_not_lt hthere), Option.getD_none,
        List.getElem_append_right hbehind, List.getElem_replicate]

theorem encode_injective {s t : Status} (h : s.encode = t.encode) : s = t := by
  have hwords := congrArg Bytes.words h
  rw [encode, encode, Bytes.words_ofWords, Bytes.words_ofWords] at hwords
  rw [← ofWords_words s, hwords, ofWords_words]

theorem length_encode (status : Status) : status.encode.length = 44 := by
  rw [encode, Bytes.ofWords_length]
  rfl

/-! ### Reading -/

theorem decode_of_le {data : Bytes} (h : minSize ≤ data.length) :
    decode data = .ok (ofWords (Bytes.words data)) := by
  rw [decode, if_neg (Nat.not_lt_of_le h)]

theorem exists_decode_eq_ok {data : Bytes} (h : minSize ≤ data.length) :
    ∃ status, decode data = .ok status :=
  ⟨_, decode_of_le h⟩

theorem exists_decode_eq_ok_iff {data : Bytes} :
    (∃ status, decode data = .ok status) ↔ minSize ≤ data.length := by
  constructor
  · rintro ⟨status, h⟩
    by_contra hshort
    rw [decode, if_pos (Nat.lt_of_not_le hshort)] at h
    cases h
  · exact exists_decode_eq_ok

theorem encode_ofWords_words (data : Bytes) :
    (ofWords (Bytes.words data)).encode = wholeWords data := by
  rw [encode, words_ofWords_eq, Bytes.ofWords_append, Bytes.ofWords_replicate_zero,
    Bytes.words_length, ← Bytes.take_ofWords, Bytes.ofWords_words, List.take_take,
    Nat.mul_min_mul_left, wholeWords, List.rightpad, List.length_take]
  congr 2
  omega

theorem decode_eq_ok_iff {data : Bytes} {status : Status} :
    decode data = .ok status ↔ minSize ≤ data.length ∧ status.encode = wholeWords data := by
  constructor
  · intro h
    have hsize : minSize ≤ data.length := exists_decode_eq_ok_iff.1 ⟨status, h⟩
    rw [decode_of_le hsize] at h
    cases h
    exact ⟨hsize, encode_ofWords_words data⟩
  · rintro ⟨hsize, hencode⟩
    rw [decode_of_le hsize, encode_injective ((encode_ofWords_words data).trans hencode.symm)]

/-- A status is read back, whatever follows it. -/
theorem decode_encode_append (status : Status) (junk : Bytes) :
    decode (status.encode ++ junk) = .ok status := by
  have hsize : minSize ≤ (status.encode ++ junk).length := by
    rw [List.length_append, length_encode, minSize]
    omega
  rw [decode_of_le hsize, encode, Bytes.words_ofWords_append]
  rfl

theorem decode_encode (status : Status) : decode status.encode = .ok status := by
  have h := decode_encode_append status []
  rwa [List.append_nil] at h

/-- A status cut short is read as what is left of it. -/
theorem decode_take_encode (status : Status) {size : ℕ} (hsize : minSize ≤ size) :
    decode (status.encode.take size) = .ok (status.received size) := by
  have hlength : minSize ≤ (status.encode.take size).length := by
    rw [List.length_take, length_encode]
    exact le_min hsize (by decide)
  rw [decode_of_le hlength, Bytes.words_take, encode, Bytes.words_ofWords, received]
  congr 1
  apply ofWords_congr
  intro place _
  have hwhole : place < size / 4 ↔ 4 * (place + 1) ≤ size := by omega
  simp only [List.getD_eq_getElem?_getD, List.getElem?_take, List.getElem?_mapIdx, hwhole]
  cases status.words[place]? with
  | none => simp
  | some word => by_cases h : 4 * (place + 1) ≤ size <;> simp [h]

/-- A byte string is read as a status exactly if it has the eight words that every status has, and
then as the one whose image are its whole words, up to eleven, and zeros. So a status is read back
whatever follows it, and one cut short keeps the words that lie wholly in front of the cut. -/
theorem decode_any_length :
    (∀ data, ((∃ status, decode data = .ok status) ↔ 32 ≤ data.length) ∧
      (data.length < 32 → decode data = .error (.statusSize data.length)) ∧
      ∀ status, decode data = .ok status ↔ 32 ≤ data.length ∧ status.encode = wholeWords data) ∧
    (∀ (status : Status) junk, decode (status.encode ++ junk) = .ok status) ∧
    (∀ (status : Status) size, 32 ≤ size →
      decode (status.encode.take size) = .ok (status.received size)) := by
  refine ⟨?_, decode_encode_append, ?_⟩
  · intro data
    refine ⟨exists_decode_eq_ok_iff, ?_, fun status => decode_eq_ok_iff⟩
    intro hshort
    exact if_pos hshort
  · intro status size hsize
    exact decode_take_encode status hsize

/-- The answer of a kernel that knows the word of features. -/
def answered : Status :=
  { enabled := 1, pid := 7, backlog := 3, features := 0x7F, backlogWaitTime := 15000 }

theorem decode_any_length_answered :
    (∃ status, decode (answered.encode.take 39) = .ok status) ∧
    decode (answered.encode.take 31) = .error (.statusSize 31) ∧
    decode (answered.encode.take 39) = .ok { answered with backlogWaitTime := 0 } := by
  obtain ⟨hdata, -, hcut⟩ := decode_any_length
  refine ⟨(hdata _).1.2 (by decide), (hdata (answered.encode.take 31)).2.1 (by decide), ?_⟩
  exact hcut answered 39 (by decide)

end LinuxAudit.Status
