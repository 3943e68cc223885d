import LinuxAudit.Rule.Basic
import LinuxAudit.Text.Numeral

/-!
Why a rule cannot be built or read.
-/

namespace LinuxAudit

/-- The parts of an encoded rule that hold codes. -/
inductive CodeKind
  | filterList
  | action
  | field
  | operator
deriving DecidableEq

def CodeKind.name : CodeKind → String
  | filterList => "filter list"
  | action => "action"
  | field => "field"
  | operator => "operator"

inductive RuleError
  | unknownSyscall (name abi : String)
  | syscallOutOfRange (nr : UInt32)
  | tooManyFields
  | pathTooLong (length limit : Nat)
  | relativePath (path : String)
  | stringTooLong (field : Field) (length limit : Nat)
  | stringField (field : Field)
  | numericField (field : Field)
  | unknownField (name : String)
  | invalidExpression (expression : String)
  | invalidValue (field : Field) (value : String)
  | truncated (expected length : Nat)
  | unknownCode (kind : CodeKind) (code : UInt32)
  | stringTableMismatch (claimed trailer : Nat)
deriving DecidableEq

def RuleError.message : RuleError → String
  | unknownSyscall name abi => s!"unknown syscall {name} for {abi}"
  | syscallOutOfRange nr => s!"syscall number {nr.toNat} does not fit the rule bitmap"
  | tooManyFields => s!"rule already has {maxFields} fields"
  | pathTooLong length limit => s!"path of {length} bytes does not fit the rule (max {limit})"
  | relativePath path => s!"watch path {path} is not absolute"
  | stringTooLong field length limit =>
    s!"value of {length} bytes for {field.name} does not fit the rule (max {limit})"
  | stringField field => s!"field {field.name} takes a string value"
  | numericField field => s!"field {field.name} takes a numeric value"
  | unknownField name => s!"unknown field {name}"
  | invalidExpression expression => s!"invalid field expression {expression}"
  | invalidValue field value => s!"invalid value {value} for field {field.name}"
  | truncated expected length =>
    s!"rule buffer truncated: expected {expected} bytes, got {length}"
  | unknownCode kind code => s!"unknown {kind.name} {Numeral.hex code.toNat} in rule buffer"
  | stringTableMismatch claimed trailer =>
    s!"string fields claim {claimed} bytes but the trailer has {trailer}"

end LinuxAudit
