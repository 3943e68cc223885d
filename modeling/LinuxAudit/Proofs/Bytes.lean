import Mathlib
import LinuxAudit.Bytes

/-! Byte strings that are cut short or filled up. A cut leaves the words that lie wholly in front of
it, `words_take`; zeros at the end are whole words of zero, `ofWords_replicate_zero`, and are taken
off again, `rdropWhile_append_replicate`. -/

namespace LinuxAudit.Bytes

theorem ofWords_replicate_zero (count : ℕ) :
    ofWords (List.replicate count 0) = List.replicate (4 * count) 0 := by
  induction count with
  | zero => rfl
  | succ count ih =>
      rw [List.replicate_succ, ofWords_cons, ih, Nat.mul_succ, Nat.add_comm, List.replicate_add]
      rfl

theorem take_ofWords (ws : List UInt32) (count : ℕ) :
    (ofWords ws).take (4 * count) = ofWords (ws.take count) := by
  induction ws generalizing count with
  | nil => rw [List.take_nil, ofWords_nil, List.take_nil]
  | cons w ws ih =>
      cases count with
      | zero => rfl
      | succ count =>
          rw [List.take_succ_cons, ofWords_cons, ofWords_cons, ← ih, Nat.mul_succ, Nat.add_comm]
          show List.take ((ofWord w).length + 4 * count) (ofWord w ++ ofWords ws) = _
          rw [List.take_length_add_append]

/-- The words of a byte string cut short are those that lie wholly in front of the cut. -/
theorem words_take (data : Bytes) (n : ℕ) : words (data.take n) = (words data).take (n / 4) := by
  have hbytes : ofWords (words (data.take n)) = ofWords ((words data).take (n / 4)) := by
    rw [ofWords_words, ← take_ofWords, ofWords_words, List.take_take, List.take_take,
      List.length_take]
    congr 1
    omega
  calc words (data.take n) = words (ofWords (words (data.take n))) := (words_ofWords _).symm
    _ = words (ofWords ((words data).take (n / 4))) := by rw [hbytes]
    _ = (words data).take (n / 4) := words_ofWords _

theorem rdropWhile_append_replicate (data : Bytes) (b : UInt8) (count : ℕ) :
    (data ++ List.replicate count b).rdropWhile (· == b) = data.rdropWhile (· == b) := by
  induction count with
  | zero => rw [List.replicate_zero, List.append_nil]
  | succ count ih =>
      rw [List.replicate_succ', ← List.append_assoc,
        List.rdropWhile_concat_pos (· == b) _ _ (beq_self_eq_true b), ih]

end LinuxAudit.Bytes
