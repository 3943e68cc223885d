import Mathlib
import LinuxAudit.Abi.Machine
import LinuxAudit.Proofs.Text.Numeral

/-! The numberings of the machines. A name stands for one number only, so the name that is shown for
a number stands for that number again: `number?_of_syscallName?`. No name is read as a number:
`unsigned_of_syscallName?`. -/

namespace LinuxAudit

/-! ### Telling names apart -/

namespace Syscalls

/-- A remainder of the number that the bytes of a name spell. The remainders of a whole table fit one
small set, so that one pass tells all names apart; to compare them in pairs would take too long. -/
def fingerprint (name : String) : ℕ :=
  name.toByteArray.data.toList.foldl (fun n b => (256 * n + b.toNat) % 524287) 0

/-- No number is one of the seen ones, given by their bits, and none comes twice. -/
def fresh : ℕ → List ℕ → Bool
  | _, [] => true
  | seen, n :: ns => !seen.testBit n && fresh (seen ||| 1 <<< n) ns

theorem nodup_of_fresh {seen : ℕ} {ns : List ℕ} (h : fresh seen ns = true) :
    ns.Nodup ∧ ∀ n ∈ ns, seen.testBit n = false := by
  induction ns generalizing seen with
  | nil => exact ⟨List.nodup_nil, List.forall_mem_nil _⟩
  | cons n ns ih =>
      rw [fresh, Bool.and_eq_true, Bool.not_eq_true'] at h
      obtain ⟨hn, hns⟩ := h
      obtain ⟨hnodup, hunseen⟩ := ih hns
      have hother : ∀ m ∈ ns, seen.testBit m = false ∧ m ≠ n := by
        intro m hm
        have hbit := hunseen m hm
        rw [Nat.testBit_or, Bool.or_eq_false_iff] at hbit
        refine ⟨hbit.1, ?_⟩
        rintro rfl
        simp [Nat.testBit_shiftLeft] at hbit
      refine ⟨List.nodup_cons.2 ⟨fun hm => (hother n hm).2 rfl, hnodup⟩, ?_⟩
      exact List.forall_mem_cons.2 ⟨hn, fun m hm => (hother m hm).1⟩

/-- A name starts with a byte past the digits. -/
def startsPastDigits (name : String) : Bool :=
  name.toByteArray.data.toList.head?.any (0x39 < ·)

/-- A character up to the last digit is its own first byte. -/
theorem head?_toByteArray {name : String} {c : Char} {rest : List Char}
    (hname : name.toList = c :: rest) (hc : c ≤ '9') :
    name.toByteArray.data.toList.head? = some c.val.toUInt8 := by
  have hascii : c.val ≤ 127 := UInt32.le_trans hc (by decide)
  have hbytes : String.utf8EncodeChar c = [c.val.toUInt8] :=
    String.utf8EncodeChar_eq_singleton (Char.utf8Size_eq_one_iff.2 hascii)
  rw [← String.utf8Encode_toList, hname, List.utf8Encode_cons, List.utf8Encode_singleton, hbytes,
    ByteArray.data_append, Array.toList_append]
  simp

theorem unsigned_of_startsPastDigits {name : String} (h : startsPastDigits name = true)
    (size n : ℕ) : Numeral.unsigned size name ≠ .ok n := by
  intro hread
  obtain ⟨c, rest, hname, hc⟩ := Numeral.head_of_natural hread
  have hascii : c.val.toNat ≤ 0x39 := hc
  have hbyte : c.val.toUInt8.toNat = c.val.toNat := by
    rw [UInt32.toNat_toUInt8]
    omega
  rw [startsPastDigits, head?_toByteArray hname hc, Option.any_some, decide_eq_true_iff,
    UInt8.lt_iff_toNat_lt, hbyte] at h
  exact absurd h (Nat.not_lt.2 hascii)

end Syscalls

namespace Machine

/-- No name stands for two numbers, and none is the one that stands for all. -/
theorem nodup_names (machine : Machine) : ("all" :: machine.syscalls.map (·.2)).Nodup := by
  have hfresh : Syscalls.fresh 0 (("all" :: machine.syscalls.map (·.2)).map Syscalls.fingerprint) =
      true := by
    cases machine <;> decide +kernel
  exact .of_map Syscalls.fingerprint (Syscalls.nodup_of_fresh hfresh).1

theorem startsPastDigits_of_mem {machine : Machine} {entry : UInt32 × String}
    (h : entry ∈ machine.syscalls) : Syscalls.startsPastDigits entry.2 = true := by
  have hall : machine.syscalls.all (Syscalls.startsPastDigits ·.2) = true := by
    cases machine <;> decide +kernel
  exact List.all_eq_true.1 hall entry h

/-- The name of a number is in the table with it. -/
theorem mem_of_syscallName? {machine : Machine} {nr : UInt32} {name : String}
    (h : machine.abi.syscallName? nr = some name) : (nr, name) ∈ machine.syscalls := by
  obtain ⟨entry, hfound, hname⟩ := Option.map_eq_some_iff.1 h
  have hnumber : entry.1 = nr := by simpa using List.find?_some hfound
  rw [← hnumber, ← hname]
  exact List.mem_of_find?_eq_some hfound

/-- The name of a number stands for the number, and it is not the name of all syscalls. -/
theorem number?_of_syscallName? {machine : Machine} {nr : UInt32} {name : String}
    (h : machine.abi.syscallName? nr = some name) :
    name ≠ "all" ∧ machine.abi.number? name = some nr := by
  have hmem := mem_of_syscallName? h
  obtain ⟨hall, hnodup⟩ := List.nodup_cons.1 machine.nodup_names
  refine ⟨?_, ?_⟩
  · rintro rfl
    exact hall (List.mem_map.2 ⟨_, hmem, rfl⟩)
  · cases hfound : machine.syscalls.find? (·.2 == name) with
    | none => exact absurd (beq_self_eq_true name) (List.find?_eq_none.1 hfound _ hmem)
    | some entry =>
        have hname : entry.2 = name := by simpa using List.find?_some hfound
        have hentry : entry = (nr, name) :=
          List.inj_on_of_nodup_map hnodup (List.mem_of_find?_eq_some hfound) hmem hname
        show (machine.syscalls.find? (·.2 == name)).map (·.1) = some nr
        rw [hfound, hentry, Option.map_some]

/-- The name of a number is not read as a number. -/
theorem unsigned_of_syscallName? {machine : Machine} {nr : UInt32} {name : String}
    (h : machine.abi.syscallName? nr = some name) (size n : ℕ) :
    Numeral.unsigned size name ≠ .ok n :=
  Syscalls.unsigned_of_startsPastDigits (startsPastDigits_of_mem (mem_of_syscallName? h)) size n

end Machine

end LinuxAudit
