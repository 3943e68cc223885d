import LinuxAudit.Rule.Target
import LinuxAudit.Text.CharClass
import LinuxAudit.Text.Cut
import LinuxAudit.Text.Numeral

/-!
The keys and values of a section of the settings, and reading the values as what they mean.
-/

namespace LinuxAudit

/-- Why a text is not the value that it should be. -/
inductive ValueFault
  | number (fault : Numeral.Fault)
  | truth
  | emptyChar
  | manyChars
  | name
  | access
deriving DecidableEq

def ValueFault.message : ValueFault → String
  | number fault => fault.message
  | truth => "provided string was not \x60true\x60 or \x60false\x60"
  | emptyChar => "cannot parse char from empty string"
  | manyChars => "too many characters in string"
  | name => "Matching variant not found"
  | access => "expected a combination of r, w, x, a"

inductive SettingsError
  | required (key : String)
  | invalid (key value : String) (fault : ValueFault)
deriving DecidableEq

def SettingsError.message : SettingsError → String
  | required key => s!"field {key} is required"
  | invalid key value fault =>
    s!"{value} is not a valid value for field {key}: {fault.message}"

/-- A way to read a value from its text. -/
abbrev ValueReader (α : Type) := String → Except ValueFault α

namespace ValueReader

def string : ValueReader String := .ok

def unsigned (size : Nat) : ValueReader Nat := fun text =>
  (Numeral.unsigned size text).mapError .number

def signed (size : Nat) : ValueReader Int := fun text =>
  (Numeral.signed size text).mapError .number

def bool : ValueReader Bool
  | "true" => .ok true
  | "false" => .ok false
  | _ => .error .truth

def char : ValueReader Char := fun text =>
  match text.toList with
  | [] => .error .emptyChar
  | [c] => .ok c
  | _ => .error .manyChars

def named {α : Type} (ofName? : String → Option α) : ValueReader α := fun text =>
  match ofName? text with
  | some a => .ok a
  | none => .error .name

def filterList : ValueReader FilterList := named FilterList.ofName?

def action : ValueReader Action := named Action.ofName?

end ValueReader

/-- Each key has one value. -/
structure Section where
  entries : List (String × String) := []

namespace Section

def get? (s : Section) (key : String) : Option String :=
  (s.entries.find? (·.1 == key)).map (·.2)

/-- Gives a key a value in place of the one it had. -/
def insert (s : Section) (key value : String) : Section :=
  ⟨s.entries.filter (·.1 != key) ++ [(key, value)]⟩

/-- Of pairs with the same key the last counts. -/
def ofPairs (pairs : List (String × String)) : Section :=
  pairs.foldl (fun s (key, value) => s.insert key value) {}

def read {α : Type} (reader : ValueReader α) (key value : String) : Except SettingsError α :=
  (reader value).mapError (.invalid key value)

def required {α : Type} (s : Section) (reader : ValueReader α) (key : String) :
    Except SettingsError α :=
  match s.get? key with
  | some value => read reader key value
  | none => .error (.required key)

def optional {α : Type} (s : Section) (reader : ValueReader α) (key : String) :
    Except SettingsError (Option α) :=
  match s.get? key with
  | some value => (read reader key value).map some
  | none => .ok none

def withDefault {α : Type} (s : Section) (reader : ValueReader α) (key : String) (default : α) :
    Except SettingsError α :=
  (s.optional reader key).map (·.getD default)

/-- The items between commas, without the blanks around them; empty items do not count. -/
def items (text : String) : List String :=
  (((Text.fields ',' text.toList).map Text.trimmed).filter (!·.isEmpty)).map String.ofList

def list {α : Type} (s : Section) (reader : ValueReader α) (key : String) :
    Except SettingsError (List α) :=
  match s.get? key with
  | some value => (items value).mapM (read reader key)
  | none => .ok []

end Section

end LinuxAudit
