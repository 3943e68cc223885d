/-!
Reading whole numbers from text: ASCII digits only, an optional sign, no blanks and no separators.
Leading zeros are fine; a value that does not fit is refused at the digit that takes it past the
limit, and a character that is no digit where it stands.
-/

namespace LinuxAudit.Numeral

inductive Fault
  | empty
  | digit
  | tooLarge
  | tooSmall
deriving DecidableEq

def Fault.message : Fault → String
  | empty => "cannot parse integer from empty string"
  | digit => "invalid digit found in string"
  | tooLarge => "number too large to fit in target type"
  | tooSmall => "number too small to fit in target type"

/-- The value of a digit of a base up to sixteen, in either case. -/
def digit? (base : Nat) (c : Char) : Option Nat :=
  let value? :=
    if '0' ≤ c ∧ c ≤ '9' then some (c.toNat - '0'.toNat)
    else if 'a' ≤ c ∧ c ≤ 'f' then some (c.toNat - 'a'.toNat + 10)
    else if 'A' ≤ c ∧ c ≤ 'F' then some (c.toNat - 'A'.toNat + 10)
    else none
  value?.filter (· < base)

/-- Reads digits from the left onto a value, which stays below `size`. -/
def magnitude (base size : Nat) (past : Fault) : Nat → List Char → Except Fault Nat
  | value, [] => .ok value
  | value, c :: rest =>
    match digit? base c with
    | none => .error .digit
    | some d =>
      if base * value + d < size then magnitude base size past (base * value + d) rest
      else .error past

/-- A number below `size`; a plus sign may come first. -/
def natural (base size : Nat) : List Char → Except Fault Nat
  | [] => .error .empty
  | ['+'] => .error .digit
  | '+' :: digits => magnitude base size .tooLarge 0 digits
  | digits => magnitude base size .tooLarge 0 digits

/-- A number of the two's complement range of `size` values; either sign may come first. -/
def integer (size : Nat) : List Char → Except Fault Int
  | [] => .error .empty
  | ['+'] | ['-'] => .error .digit
  | '-' :: digits => do return -(← magnitude 10 (size / 2 + 1) .tooSmall 0 digits : Int)
  | '+' :: digits => do return ← magnitude 10 (size / 2) .tooLarge 0 digits
  | digits => do return ← magnitude 10 (size / 2) .tooLarge 0 digits

/-- An unsigned decimal number of a type with `size` values. -/
def unsigned (size : Nat) (text : String) : Except Fault Nat :=
  natural 10 size text.toList

/-- A signed decimal number of a type with `size` values. -/
def signed (size : Nat) (text : String) : Except Fault Int :=
  integer size text.toList

/-- The digits of a number in a base, `0x` in front. -/
def hex (n : Nat) : String :=
  "0x" ++ String.ofList (Nat.toDigits 16 n)

/-- The decimal digits of a number, filled up with zeros to `width`. -/
def padded (width n : Nat) : String :=
  let digits := Nat.toDigits 10 n
  String.ofList (List.replicate (width - digits.length) '0' ++ digits)

end LinuxAudit.Numeral
