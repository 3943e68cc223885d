import LinuxAudit.Rule.Basic
import LinuxAudit.Text.Numeral
import LinuxAudit.Text.Utf8

/-!
Rules written out: action and filter list, then a clause for each selected syscall, then one for
each predicate, as in `-a always,exit -S mkdir -F uid>=1000`.
-/

namespace LinuxAudit

/-- A way to name syscalls: all of them, or one by name or by number. -/
inductive Selection
  | all
  | name (name : String)
  | number (nr : UInt32)
deriving DecidableEq

def Selection.text : Selection → String
  | .all => "all"
  | .name n => n
  | .number nr => toString nr.toNat

namespace Operand

/-- Text is shown as text, a number in decimal. -/
def plain : Operand → String
  | .text bytes => Utf8.lossy bytes
  | .number value => toString value.toNat

/-- The value of a predicate on a field: an architecture code is written in hexadecimal. -/
def written (field : Field) : Operand → String
  | .text bytes => Utf8.lossy bytes
  | .number value => if field = .arch then Numeral.hex value.toNat else toString value.toNat

end Operand

namespace Rule

/-- The selected syscalls, by name where a name is known. -/
def selections (syscallName? : UInt32 → Option String) (rule : Rule) : List Selection :=
  if rule.syscalls = .all then [.all]
  else rule.syscalls.members.map fun nr =>
    match syscallName? nr with
    | some name => .name name
    | none => .number nr

/-- The predicates as field expressions. -/
def expressions (rule : Rule) : List String :=
  rule.operands.map fun (p, operand) =>
    p.field.name ++ p.operator.symbol ++ operand.written p.field

def line (syscallName? : UInt32 → Option String) (rule : Rule) : String :=
  "-a " ++ rule.action.name ++ "," ++ rule.list.name
    ++ String.join ((rule.selections syscallName?).map (" -S " ++ ·.text))
    ++ String.join (rule.expressions.map (" -F " ++ ·))

/-- The rule written with syscall numbers only. -/
def numericLine (rule : Rule) : String :=
  rule.line fun _ => none

end Rule

end LinuxAudit
