/-!
Comparison operators and the written form `name<op>value` of a field expression. The operator of an
expression starts at its first operator character and is the longest symbol that stands there.
-/

namespace LinuxAudit

inductive Operator
  | bitMask
  | lessThan
  | greaterThan
  | notEqual
  | equal
  | bitTest
  | atMost
  | atLeast
deriving DecidableEq

namespace Operator

def all : List Operator :=
  [bitMask, lessThan, greaterThan, notEqual, equal, bitTest, atMost, atLeast]

def code : Operator → UInt32
  | bitMask => 0x08000000
  | lessThan => 0x10000000
  | greaterThan => 0x20000000
  | notEqual => 0x30000000
  | equal => 0x40000000
  | bitTest => 0x48000000
  | atMost => 0x50000000
  | atLeast => 0x60000000

def symbol : Operator → String
  | bitMask => "&"
  | lessThan => "<"
  | greaterThan => ">"
  | notEqual => "!="
  | equal => "="
  | bitTest => "&="
  | atMost => "<="
  | atLeast => ">="

def ofCode? (code : UInt32) : Option Operator :=
  all.find? (·.code == code)

def ofSymbol? (symbol : String) : Option Operator :=
  all.find? (·.symbol == symbol)

theorem ofCode?_code (op : Operator) : ofCode? op.code = some op := by
  cases op <;> rfl

theorem ofSymbol?_symbol (op : Operator) : ofSymbol? op.symbol = some op := by
  cases op <;> rfl

theorem code_of_ofCode? {code : UInt32} {op : Operator} (h : ofCode? code = some op) :
    op.code = code := by
  simpa using List.find?_some h

/-- The operators with two-character symbols come first. -/
def longestFirst : List Operator :=
  [notEqual, bitTest, atMost, atLeast, bitMask, lessThan, greaterThan, equal]

/-- The characters that symbols are made of. -/
def isSymbolChar (c : Char) : Bool :=
  c == '=' || c == '!' || c == '<' || c == '>' || c == '&'

/-- Splits an expression into field name, operator and value. -/
def split? (expression : String) : Option (String × Operator × String) :=
  let name := expression.toList.takeWhile (!isSymbolChar ·)
  let rest := expression.toList.dropWhile (!isSymbolChar ·)
  (longestFirst.find? (·.symbol.toList.isPrefixOf rest)).map fun op =>
    (String.ofList name, op, String.ofList (rest.drop op.symbol.length))

end Operator

end LinuxAudit
