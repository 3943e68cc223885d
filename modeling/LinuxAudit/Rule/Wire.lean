import LinuxAudit.Rule.Error

/-!
Rules on the wire, the kernel's `struct audit_rule_data`. In front of the trailer stand 260 words:
filter list, action and field count; the syscall bitmap; the fields, the values and the operators of
the predicates as three arrays of 64 words with zeros behind the last predicate; and the length of
the trailer.
-/

namespace LinuxAudit

namespace Rule

/-- An array of 64 words, zeros behind the given ones. -/
def padded (words : List UInt32) : List UInt32 :=
  words ++ List.replicate (maxFields - words.length) 0

def headerWords (rule : Rule) : List UInt32 :=
  [rule.list.code, rule.action.code, UInt32.ofNat rule.predicates.length]
    ++ rule.syscalls.words
    ++ padded (rule.predicates.map (·.field.code))
    ++ padded (rule.predicates.map (·.value))
    ++ padded (rule.predicates.map (·.operator.code))
    ++ [UInt32.ofNat rule.trailer.length]

def encode (rule : Rule) : Bytes :=
  Bytes.ofWords rule.headerWords ++ rule.trailer

/-- Looks up a code, or says which code of which kind is unknown. -/
def known {α : Type} (kind : CodeKind) (lookup : UInt32 → Option α) (code : UInt32) :
    Except RuleError α :=
  match lookup code with
  | some a => .ok a
  | none => .error (.unknownCode kind code)

/-- Reads one predicate from its entries of the three arrays. -/
def decodePredicate (field value operator : UInt32) : Except RuleError Predicate := do
  let field ← known .field Field.ofCode? field
  let operator ← known .operator Operator.ofCode? operator
  return { field, operator, value }

/-- Reads the first `count` entries of the three arrays. -/
def decodePredicates :
    Nat → List UInt32 → List UInt32 → List UInt32 → Except RuleError (List Predicate)
  | count + 1, field :: fields, value :: values, operator :: operators => do
    let predicate ← decodePredicate field value operator
    return predicate :: (← decodePredicates count fields values operators)
  | _, _, _, _ => return []

/-- Reads a rule from the front of a byte string; bytes behind its trailer are left alone. Sizes are
taken to have 64 bits, so that neither the end of the trailer nor the length of all texts wraps. -/
def decode (data : Bytes) : Except RuleError Rule := do
  if data.length < ruleHeaderSize then
    throw (.truncated ruleHeaderSize data.length)
  let words := Bytes.words (data.take ruleHeaderSize)
  let list ← known .filterList FilterList.ofCode? (words.getD 0 0)
  let action ← known .action Action.ofCode? (words.getD 1 0)
  let count := (words.getD 2 0).toNat
  if count > maxFields then
    throw .tooManyFields
  let bitmap := words.drop 3
  let fields := bitmap.drop bitmapWords
  let values := fields.drop maxFields
  let operators := values.drop maxFields
  let trailerLength := ((operators.drop maxFields).headD 0).toNat
  if data.length < ruleHeaderSize + trailerLength then
    throw (.truncated (ruleHeaderSize + trailerLength) data.length)
  let predicates ← decodePredicates count fields values operators
  if Predicate.textLength predicates ≠ trailerLength then
    throw (.stringTableMismatch (Predicate.textLength predicates) trailerLength)
  return {
    list, action
    syscalls := .ofWords (bitmap.take bitmapWords)
    predicates
    trailer := (data.drop ruleHeaderSize).take trailerLength }

end Rule

end LinuxAudit
