/-!
The syscalls that a rule selects, as the bitmap that the kernel reads: bit `n` selects syscall `n`,
and a number past the bitmap is never selected. On the wire the bitmap is 64 words, lowest first.
-/

namespace LinuxAudit

/-- Words of the bitmap. -/
def bitmapWords : Nat := 64

/-- Syscall numbers below this one fit the bitmap. -/
def maxSyscalls : Nat := 32 * bitmapWords

abbrev SyscallSet := BitVec maxSyscalls

namespace SyscallSet

def none : SyscallSet := 0

/-- Every number of the bitmap. -/
def all : SyscallSet := BitVec.allOnes maxSyscalls

def has (set : SyscallSet) (nr : UInt32) : Bool :=
  set.getLsbD nr.toNat

def insert (set : SyscallSet) (nr : UInt32) : SyscallSet :=
  set ||| BitVec.twoPow maxSyscalls nr.toNat

/-- The selected numbers in ascending order. -/
def members (set : SyscallSet) : List UInt32 :=
  ((List.range maxSyscalls).filter (set.getLsbD ·)).map UInt32.ofNat

/-- The lowest words of a number, lowest first. -/
def lowWords : Nat → Nat → List UInt32
  | 0, _ => []
  | count + 1, n => UInt32.ofNat n :: lowWords count (n / UInt32.size)

/-- The number that words spell, lowest first. -/
def spelled : List UInt32 → Nat
  | [] => 0
  | w :: ws => w.toNat + UInt32.size * spelled ws

def words (set : SyscallSet) : List UInt32 :=
  lowWords bitmapWords set.toNat

/-- The bitmap of 64 words. -/
def ofWords (words : List UInt32) : SyscallSet :=
  BitVec.ofNat maxSyscalls (spelled words)

/-- How many numbers so many words spell. -/
def span : Nat → Nat
  | 0 => 1
  | count + 1 => UInt32.size * span count

theorem span_eq_pow (count : Nat) : span count = Nat.pow 2 (32 * count) := by
  induction count with
  | zero => rfl
  | succ count ih =>
    rw [span, ih, Nat.pow_eq, Nat.pow_eq, Nat.mul_comm]
    exact (Nat.pow_add 2 (32 * count) 32).symm

theorem toNat_lt_span {count width : Nat} (h : 32 * count = width) (bits : BitVec width) :
    bits.toNat < span count := by
  subst h
  rw [span_eq_pow]
  exact bits.isLt

theorem toNat_ofNat_of_lt_span {count width n : Nat} (h : 32 * count = width)
    (hn : n < span count) : (BitVec.ofNat width n).toNat = n := by
  subst h
  rw [span_eq_pow] at hn
  rw [BitVec.toNat_ofNat]
  exact Nat.mod_eq_of_lt hn

theorem bitmap_width : 32 * bitmapWords = maxSyscalls := rfl

@[simp] theorem lowWords_length (count n : Nat) : (lowWords count n).length = count := by
  induction count generalizing n with
  | zero => rfl
  | succ count ih => simp [lowWords, ih]

theorem lowWords_spelled (words : List UInt32) : lowWords words.length (spelled words) = words := by
  induction words with
  | nil => rfl
  | cons w ws ih =>
    have hw : w.toNat < UInt32.size := w.toNat_lt_size
    have hlow : UInt32.ofNat (w.toNat + UInt32.size * spelled ws) = w := by
      apply UInt32.toNat_inj.1
      simp only [UInt32.toNat_ofNat', UInt32.size] at hw ⊢
      omega
    have hhigh : (w.toNat + UInt32.size * spelled ws) / UInt32.size = spelled ws := by
      simp only [UInt32.size] at hw ⊢
      omega
    simp only [List.length_cons, spelled, lowWords, hlow, hhigh, ih]

theorem spelled_lowWords (count n : Nat) : spelled (lowWords count n) = n % span count := by
  induction count generalizing n with
  | zero => simp [lowWords, spelled, span, Nat.mod_one]
  | succ count ih =>
    have hword : (UInt32.ofNat n).toNat = n % UInt32.size := UInt32.toNat_ofNat'
    simp only [lowWords, spelled, span, ih, hword, Nat.mod_mul]

theorem spelled_lt (words : List UInt32) : spelled words < span words.length := by
  induction words with
  | nil => exact Nat.one_pos
  | cons w ws ih =>
    have hw : w.toNat < UInt32.size := w.toNat_lt_size
    calc spelled (w :: ws) < UInt32.size + UInt32.size * spelled ws := by
          simp only [spelled]; omega
      _ = UInt32.size * (spelled ws + 1) := by rw [Nat.mul_add, Nat.mul_one, Nat.add_comm]
      _ ≤ span (w :: ws).length := Nat.mul_le_mul_left _ ih

theorem toNat_ofWords {words : List UInt32} (h : words.length = bitmapWords) :
    (ofWords words).toNat = spelled words :=
  toNat_ofNat_of_lt_span bitmap_width (h ▸ spelled_lt words)

theorem words_length (set : SyscallSet) : set.words.length = bitmapWords :=
  lowWords_length _ _

theorem ofWords_words (set : SyscallSet) : ofWords set.words = set := by
  apply BitVec.eq_of_toNat_eq
  rw [toNat_ofWords (words_length set), words, spelled_lowWords,
    Nat.mod_eq_of_lt (toNat_lt_span bitmap_width set)]

theorem words_ofWords {words : List UInt32} (h : words.length = bitmapWords) :
    (ofWords words).words = words := by
  rw [SyscallSet.words, toNat_ofWords h, ← h, lowWords_spelled]

end SyscallSet

end LinuxAudit
