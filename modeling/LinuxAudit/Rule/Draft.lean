import LinuxAudit.Abi
import LinuxAudit.Log
import LinuxAudit.Rule.Access
import LinuxAudit.Rule.Clause
import LinuxAudit.Rule.Error

/-!
Drafting a rule one edit at a time. An edit only adds to the rule, the two edits that set its target
apart, and it either applies completely or leaves the rule as it was.
-/

namespace LinuxAudit

structure Draft where
  rule : Rule := {}
  log : List Log.Entry := []

/-- A change of a draft that may fail; what it did before it failed would stay. -/
abbrev Edit := EStateM RuleError Draft

/-- A number of a field expression: hexadecimal behind `0x`, else decimal; a negative one stands for
its two's complement. -/
def numberOperand? (text : String) : Option UInt32 :=
  match text.toList with
  | '0' :: 'x' :: digits => (Numeral.natural 16 UInt32.size digits).toOption.map UInt32.ofNat
  | '-' :: digits => (Numeral.integer UInt32.size ('-' :: digits)).toOption.map UInt32.ofInt
  | digits => (Numeral.natural 10 UInt32.size digits).toOption.map UInt32.ofNat

/-- The value of a numeric field: architectures go by name as well, and access is given by
letters. -/
def fieldOperand? (abi : Abi) (field : Field) (text : String) : Option UInt32 :=
  match field with
  | .arch => (abi.arch? text).or (numberOperand? text)
  | .access => Access.parse? text
  | _ => numberOperand? text

/-- A path without the slashes at its end; of a path of slashes alone one is left. -/
def normalPath (path : Bytes) : Bytes :=
  match (path.reverse.dropWhile (· == 0x2F)).reverse with
  | [] => path.take 1
  | stripped => stripped

namespace Draft

def modifyRule (f : Rule → Rule) : Edit Unit :=
  modify fun draft => { draft with rule := f draft.rule }

/-- The bytes that the trailer can still take. -/
def room : Edit Nat := do
  return maxTrailerLength - (← get).rule.trailer.length

def setList (list : FilterList) : Edit Unit :=
  modifyRule fun rule => { rule with list }

def setAction (action : Action) : Edit Unit :=
  modifyRule fun rule => { rule with action }

/-- Brings in the predicates that name the numbering, unless syscalls are selected already. A field
that has a predicate gets no second one. -/
def openMask (abi : Abi) : Edit Unit := do
  let rule := (← get).rule
  if rule.syscalls = .none then
    let missing := abi.maskPredicates.filter fun p => !rule.predicates.any (·.field == p.field)
    if rule.predicates.length + missing.length > maxFields then
      throw .tooManyFields
    modifyRule fun rule => { rule with predicates := rule.predicates ++ missing }

def selectNumber (abi : Abi) (nr : UInt32) : Edit Unit := do
  if nr.toNat ≥ maxSyscalls then
    throw (.syscallOutOfRange nr)
  openMask abi
  modifyRule fun rule => { rule with syscalls := rule.syscalls.insert nr }

def selectAll (abi : Abi) : Edit Unit := do
  openMask abi
  modifyRule fun rule => { rule with syscalls := .all }

/-- Selects a syscall by name; the name `all` stands for every syscall. -/
def selectName (abi : Abi) (name : String) : Edit Unit :=
  if name = "all" then selectAll abi
  else match abi.number? name with
    | some nr => selectNumber abi nr
    | none => throw (.unknownSyscall name abi.name)

def select (abi : Abi) : Selection → Edit Unit
  | .all => selectAll abi
  | .name name => selectName abi name
  | .number nr => selectNumber abi nr

/-- Appends a predicate if there is a place left. -/
def push (predicate : Predicate) : Edit Unit := do
  if (← get).rule.predicates.length = maxFields then
    throw .tooManyFields
  modifyRule fun rule => { rule with predicates := rule.predicates ++ [predicate] }

/-- Appends a string predicate and puts its text into the trailer. -/
def pushText (field : Field) (operator : Operator) (text : Bytes) : Edit Unit := do
  push ⟨field, operator, UInt32.ofNat text.length⟩
  modifyRule fun rule => { rule with trailer := rule.trailer ++ text }
  modify fun draft => { draft with log := draft.log ++ [⟨.trace,
    s!"stored {text.length} bytes for {field.name}, buflen {draft.rule.trailer.length}"⟩] }

def addNumber (field : Field) (operator : Operator) (value : UInt32) : Edit Unit :=
  if field.isString then throw (.stringField field)
  else push ⟨field, operator, value⟩

def addText (field : Field) (operator : Operator) (text : String) : Edit Unit := do
  if !field.isString then
    throw (.numericField field)
  let bytes := Utf8.encode text
  let limit := if field = .key then maxKeyLength else maxPathLength
  let room ← room
  if bytes.length > limit ∨ bytes.length > room then
    throw (.stringTooLong field bytes.length (min limit room))
  pushText field operator bytes

/-- Appends the predicate of a field expression. -/
def addExpression (abi : Abi) (expression : String) : Edit Unit :=
  match Operator.split? expression with
  | none => throw (.invalidExpression expression)
  | some (name, operator, value) =>
    match Field.ofName? name with
    | none => throw (.unknownField name)
    | some field =>
      if field.isString then addText field operator value
      else match fieldOperand? abi field value with
        | none => throw (.invalidValue field value)
        | some number => addNumber field operator number

def watch (field : Field) (path : Bytes) : Edit Unit := do
  if path.head? ≠ some 0x2F then
    throw (.relativePath (Utf8.lossy path))
  let path := normalPath path
  let room ← room
  if path.length > maxPathLength ∨ path.length > room then
    throw (.pathTooLong path.length (min maxPathLength room))
  pushText field .equal path

/-- Watches all that lies under a directory. -/
def watchTree (path : Bytes) : Edit Unit :=
  watch .tree path

/-- Watches a single file. -/
def watchFile (path : Bytes) : Edit Unit :=
  watch .path path

/-- Narrows a watch to some kinds of access. -/
def restrictAccess (access : UInt32) : Edit Unit :=
  if access = 0 ∨ access &&& ~~~Access.all ≠ 0 then
    throw (.invalidValue .access (toString access.toNat))
  else addNumber .access .equal access

/-- Gives the records of the rule a key. -/
def addKey (key : String) : Edit Unit :=
  addText .key .equal key

end Draft

/-- The edits of a draft as data. -/
inductive Draft.Step
  | setList (list : FilterList)
  | setAction (action : Action)
  | select (selection : Selection)
  | addNumber (field : Field) (operator : Operator) (value : UInt32)
  | addText (field : Field) (operator : Operator) (text : String)
  | addExpression (expression : String)
  | watchTree (path : Bytes)
  | watchFile (path : Bytes)
  | restrictAccess (access : UInt32)
  | addKey (key : String)

namespace Draft

def Step.edit (abi : Abi) : Step → Edit Unit
  | setList list => Draft.setList list
  | setAction action => Draft.setAction action
  | select selection => Draft.select abi selection
  | addNumber field operator value => Draft.addNumber field operator value
  | addText field operator text => Draft.addText field operator text
  | addExpression expression => Draft.addExpression abi expression
  | watchTree path => Draft.watchTree path
  | watchFile path => Draft.watchFile path
  | restrictAccess access => Draft.restrictAccess access
  | addKey key => Draft.addKey key

/-- Runs an edit and says why it failed, if it did. -/
def attempt (draft : Draft) (edit : Edit Unit) : Option RuleError × Draft :=
  match edit.run draft with
  | .ok _ draft => (none, draft)
  | .error e draft => (some e, draft)

/-- Runs steps one after the other, whether the ones before them failed or not. -/
def attemptAll (abi : Abi) (draft : Draft) (steps : List Step) : Draft :=
  steps.foldl (fun draft step => (draft.attempt (step.edit abi)).2) draft

end Draft

end LinuxAudit
