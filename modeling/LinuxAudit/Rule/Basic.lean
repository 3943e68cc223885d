import LinuxAudit.Bytes
import LinuxAudit.Rule.Field
import LinuxAudit.Rule.Operator
import LinuxAudit.Rule.SyscallSet
import LinuxAudit.Rule.Target

/-!
Audit rules. The kernel matches the predicates of a rule in order. The texts of its string fields
stand one after the other in the trailer; a string predicate holds only the length of its text.
-/

namespace LinuxAudit

/-- Predicates of a rule at most. -/
def maxFields : Nat := 64

/-- The longest message of the audit socket, its header included. -/
def maxMessageLength : Nat := 8970

/-- Bytes of a message header. -/
def messageHeaderSize : Nat := 16

/-- Bytes of a rule on the wire in front of its trailer: three words, the bitmap, three arrays of
one word for each predicate, and the length of the trailer. -/
def ruleHeaderSize : Nat := 4 * (3 + bitmapWords + 3 * maxFields + 1)

/-- The longest trailer that a rule can have in a single message. -/
def maxTrailerLength : Nat := maxMessageLength - messageHeaderSize - ruleHeaderSize

/-- The longest key. -/
def maxKeyLength : Nat := 256

/-- The longest path, and the longest text of a string field other than the key. -/
def maxPathLength : Nat := 4096

structure Predicate where
  field : Field
  operator : Operator
  value : UInt32
deriving DecidableEq

/-- What a predicate compares its field with. -/
inductive Operand
  | number (value : UInt32)
  | text (bytes : Bytes)
deriving DecidableEq

structure Rule where
  list : FilterList := .user
  action : Action := .never
  syscalls : SyscallSet := .none
  predicates : List Predicate := []
  trailer : Bytes := []
deriving DecidableEq

namespace Predicate

/-- Gives each predicate its operand; the text of a string predicate starts in the trailer where the
one before it ended. -/
def operands (trailer : Bytes) : List Predicate → List (Predicate × Operand)
  | [] => []
  | p :: rest =>
    if p.field.isString then
      (p, .text (trailer.take p.value.toNat)) :: operands (trailer.drop p.value.toNat) rest
    else (p, .number p.value) :: operands trailer rest

/-- The length of all texts of predicates. Sizes are taken to have 64 bits: the lengths of the 64
texts that a rule can have are words of 32 bits, so their sum does not wrap there and has no bound
here. -/
def textLength : List Predicate → Nat
  | [] => 0
  | p :: rest => (if p.field.isString then p.value.toNat else 0) + textLength rest

end Predicate

namespace Rule

def operands (rule : Rule) : List (Predicate × Operand) :=
  Predicate.operands rule.trailer rule.predicates

/-- The string predicates' fields and texts, in order. -/
def strings (rule : Rule) : List (Field × Bytes) :=
  rule.operands.filterMap fun
    | (p, .text bytes) => some (p.field, bytes)
    | (_, .number _) => none

/-- The same rule on another filter list and with another action. -/
def withTarget (rule : Rule) (list : FilterList) (action : Action) : Rule :=
  { rule with list, action }

/-- A rule that the wire format can hold: its predicates fit the arrays, and the lengths of its
texts add up to a trailer whose length fits a word. -/
structure WellFormed (rule : Rule) : Prop where
  fields : rule.predicates.length ≤ maxFields
  texts : Predicate.textLength rule.predicates = rule.trailer.length
  trailer : rule.trailer.length < UInt32.size

end Rule

end LinuxAudit
