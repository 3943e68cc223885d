import Mathlib
import LinuxAudit.Rule.Wire

/-! The fixed part of an encoded rule, cut into its words. Every byte string that is long enough is
the image of exactly one layout and of what follows it, so reading a rule is described on layouts:
`decode_data_eq_ok_iff` says which layouts are read as which rule. -/

namespace LinuxAudit.Rule

/-- The words in front of the trailer, by what they hold. -/
structure Layout where
  list : UInt32
  action : UInt32
  count : UInt32
  bitmap : List UInt32
  fields : List UInt32
  values : List UInt32
  operators : List UInt32
  trailerLength : UInt32
  bitmap_length : bitmap.length = bitmapWords
  fields_length : fields.length = maxFields
  values_length : values.length = maxFields
  operators_length : operators.length = maxFields

namespace Layout

def words (l : Layout) : List UInt32 :=
  [l.list, l.action, l.count] ++ l.bitmap ++ l.fields ++ l.values ++ l.operators
    ++ [l.trailerLength]

theorem length_words (l : Layout) : 4 * l.words.length = ruleHeaderSize := by
  simp only [words, List.length_append, l.bitmap_length, l.fields_length, l.values_length,
    l.operators_length]
  rfl

/-- The bytes of a layout, and what follows them. -/
def data (l : Layout) (rest : Bytes) : Bytes :=
  Bytes.ofWords l.words ++ rest

@[simp] theorem length_data (l : Layout) (rest : Bytes) :
    (l.data rest).length = ruleHeaderSize + rest.length := by
  rw [data, List.length_append, Bytes.ofWords_length, l.length_words]

theorem take_data (l : Layout) (rest : Bytes) :
    (l.data rest).take ruleHeaderSize = Bytes.ofWords l.words := by
  apply List.take_left'
  rw [Bytes.ofWords_length, l.length_words]

theorem drop_data (l : Layout) (rest : Bytes) : (l.data rest).drop ruleHeaderSize = rest := by
  apply List.drop_left'
  rw [Bytes.ofWords_length, l.length_words]

theorem words_take_data (l : Layout) (rest : Bytes) :
    Bytes.words ((l.data rest).take ruleHeaderSize) = l.words := by
  rw [take_data, Bytes.words_ofWords]

/-- Any run of words of the right length is a layout. -/
theorem exists_words_eq (ws : List UInt32) (h : 4 * ws.length = ruleHeaderSize) :
    ∃ l : Layout, l.words = ws := by
  have hlen : ws.length = 260 := by
    simp only [ruleHeaderSize, bitmapWords, maxFields] at h
    omega
  match ws, hlen with
  | list :: action :: count :: ws, hlen =>
      have hws : ws.length = 257 := by simpa using hlen
      obtain ⟨trailerLength, hlast⟩ : ∃ w, (ws.drop 256) = [w] :=
        List.length_eq_one_iff.1 (by simp [hws])
      refine ⟨⟨list, action, count, ws.take 64, (ws.drop 64).take 64, (ws.drop 128).take 64,
        (ws.drop 192).take 64, trailerLength, ?_, ?_, ?_, ?_⟩, ?_⟩
      · simp [hws, bitmapWords]
      · simp [hws, maxFields]
      · simp [hws, maxFields]
      · simp [hws, maxFields]
      · have h1 := List.take_append_drop 64 ws
        have h2 := List.take_append_drop 64 (ws.drop 64)
        have h3 := List.take_append_drop 64 (ws.drop 128)
        have h4 := List.take_append_drop 64 (ws.drop 192)
        simp only [List.drop_drop, Nat.reduceAdd] at h2 h3 h4
        simp only [words, List.cons_append, List.nil_append, List.append_assoc]
        rw [← hlast, h4, h3, h2, h1]

/-- A byte string that is long enough has a layout. -/
theorem exists_data_eq (bytes : Bytes) (h : ruleHeaderSize ≤ bytes.length) :
    ∃ (l : Layout) (rest : Bytes), bytes = l.data rest := by
  have hlen : (bytes.take ruleHeaderSize).length = ruleHeaderSize := by
    rw [List.length_take, Nat.min_eq_left h]
  have hfour : 4 * (ruleHeaderSize / 4) = ruleHeaderSize := rfl
  obtain ⟨l, hl⟩ := exists_words_eq (Bytes.words (bytes.take ruleHeaderSize)) (by
    rw [Bytes.words_length, hlen, hfour])
  refine ⟨l, bytes.drop ruleHeaderSize, ?_⟩
  have hhead : Bytes.ofWords l.words = bytes.take ruleHeaderSize := by
    rw [hl, Bytes.ofWords_words, hlen, hfour, List.take_of_length_le (Nat.le_of_eq hlen)]
  rw [data, hhead, List.take_append_drop]

end Layout

end LinuxAudit.Rule
