import LinuxAudit.Settings.Basic
import LinuxAudit.Text.Quoted

/-!
The command line. An option takes one value, attached to its name or in the next argument, which
then may not begin with a dash, a lone dash apart. An option whose value is in the next argument is
looked at only when the next known option or the end of the arguments is reached, so an argument
that is unknown is reported first.
-/

namespace LinuxAudit.CommandLine

/-- Options with a value. -/
inductive Valued
  | configFile
  | syscall
  | tree
  | file
  | expression
  | access
  | key
  | list
  | action
deriving DecidableEq

/-- Options without one. -/
inductive Flag
  | raw
  | keepRule
  | dryRun
  | verbose
  | help
  | version
deriving DecidableEq

inductive Name
  | valued (option : Valued)
  | flag (flag : Flag)

def ofLong? : String → Option Name
  | "config-file" => some (.valued .configFile)
  | "syscall" => some (.valued .syscall)
  | "watch" => some (.valued .tree)
  | "watch-file" => some (.valued .file)
  | "field" => some (.valued .expression)
  | "perm" => some (.valued .access)
  | "key" => some (.valued .key)
  | "filter-list" => some (.valued .list)
  | "action" => some (.valued .action)
  | "raw" => some (.flag .raw)
  | "keep-rule" => some (.flag .keepRule)
  | "dry-run" => some (.flag .dryRun)
  | "verbose" => some (.flag .verbose)
  | "help" => some (.flag .help)
  | "version" => some (.flag .version)
  | _ => none

def ofShort? : Char → Option Name
  | 'S' => some (.valued .syscall)
  | 'w' => some (.valued .tree)
  | 'F' => some (.valued .expression)
  | 'p' => some (.valued .access)
  | 'k' => some (.valued .key)
  | 'v' => some (.flag .verbose)
  | 'h' => some (.flag .help)
  | 'V' => some (.flag .version)
  | _ => none

structure Options where
  configFile : Option String := none
  syscalls : List String := []
  trees : List Bytes := []
  files : List Bytes := []
  expressions : List String := []
  access : Option UInt32 := none
  key : Option String := none
  list : Option FilterList := none
  action : Option Action := none
  raw : Bool := false
  keepRule : Bool := false
  dryRun : Bool := false
  /-- How often more output was asked for, up to 255. -/
  verbosity : Nat := 0
deriving DecidableEq

/-- Why the command line is not carried out as it stands. -/
inductive Refusal
  | displayHelp
  | displayVersion
  | unknownArgument
  /-- Given again, though it may be given only once. -/
  | argumentConflict
  /-- No value, or an empty path. -/
  | invalidValue
  | tooManyValues
  | valueValidation
  | invalidUtf8
deriving DecidableEq

/-- An option that may be given once. -/
def once {α : Type} (old : Option α) (new : Except Refusal α) : Except Refusal (Option α) :=
  if old.isSome then .error .argumentConflict else new.map some

def text (value : Bytes) : Except Refusal String :=
  match Utf8.decode? value with
  | some text => .ok text
  | none => .error .invalidUtf8

def path (value : Bytes) : Except Refusal Bytes :=
  if value.isEmpty then .error .invalidValue else .ok value

def reading {α : Type} (read? : String → Option α) (value : Bytes) : Except Refusal α := do
  match read? (← text value) with
  | some a => return a
  | none => throw .valueValidation

namespace Options

def set (o : Options) (option : Valued) (value : Bytes) : Except Refusal Options := do
  match option with
  | .configFile => return { o with configFile := ← once o.configFile (text value) }
  | .syscall => return { o with syscalls := o.syscalls ++ [← text value] }
  | .tree => return { o with trees := o.trees ++ [← path value] }
  | .file => return { o with files := o.files ++ [← path value] }
  | .expression => return { o with expressions := o.expressions ++ [← text value] }
  | .access => return { o with access := ← once o.access (reading Access.parse? value) }
  | .key => return { o with key := ← once o.key (text value) }
  | .list => return { o with list := ← once o.list (reading FilterList.ofName? value) }
  | .action => return { o with action := ← once o.action (reading Action.ofName? value) }

def turnOn (o : Options) (flag : Flag) : Except Refusal Options :=
  match flag with
  | .raw => if o.raw then .error .argumentConflict else .ok { o with raw := true }
  | .keepRule => if o.keepRule then .error .argumentConflict else .ok { o with keepRule := true }
  | .dryRun => if o.dryRun then .error .argumentConflict else .ok { o with dryRun := true }
  | .verbose => .ok { o with verbosity := min 255 (o.verbosity + 1) }
  | .help => .error .displayHelp
  | .version => .error .displayVersion

/-- How much is logged. -/
def logLevel (o : Options) : Log.Level :=
  match o.verbosity with
  | 0 => .info
  | 1 => .debug
  | _ => .trace

/-- Adds the command line to the settings of the rule: lists grow, single values are replaced. -/
def mergeInto (o : Options) (settings : RuleSettings) : RuleSettings where
  syscalls := settings.syscalls ++ o.syscalls
  trees := settings.trees ++ o.trees
  files := settings.files ++ o.files
  expressions := settings.expressions ++ o.expressions
  access := o.access.or settings.access
  key := o.key.or settings.key
  list := o.list.getD settings.list
  action := o.action.getD settings.action

end Options

/-- The options so far, and an option that waits to be looked at, with its value once it has one. -/
structure State where
  options : Options := {}
  waiting : Option (Valued × Option Bytes) := none

namespace State

/-- Looks at the option that waits. -/
def settle (s : State) : Except Refusal Options :=
  match s.waiting with
  | none => .ok s.options
  | some (_, none) => .error .invalidValue
  | some (option, some value) => s.options.set option value

/-- Reads an option with what is attached to it. -/
def take (s : State) (name : Name) (attached : Option Bytes) : Except Refusal State := do
  match name, attached with
  | .flag _, some _ => throw .tooManyValues
  | .flag flag, none => return { options := ← (← s.settle).turnOn flag }
  | .valued option, none => return { options := ← s.settle, waiting := some (option, none) }
  | .valued option, some value => return { options := ← (← s.settle).set option value }

/-- Reads the letters behind a dash. What follows the letter of an option with a value is its value;
an equals sign in front of it does not count. -/
def cluster (s : State) : List Utf8.Piece → Except Refusal State
  | [] => .ok s
  | .broken _ :: _ => .error .unknownArgument
  | .char c :: rest =>
    match ofShort? c with
    | none => .error .unknownArgument
    | some (.flag flag) => do
      let s ← s.take (.flag flag) none
      s.cluster rest
    | some (.valued option) =>
      match rest with
      | [] => s.take (.valued option) none
      | .char '=' :: value => s.take (.valued option) (some (value.flatMap Utf8.Piece.bytes))
      | value => s.take (.valued option) (some (value.flatMap Utf8.Piece.bytes))

/-- Reads what stands behind two dashes: a name, and a value behind an equals sign. -/
def long (s : State) (argument : Bytes) : Except Refusal State :=
  let (name, attached) := match Text.cut? [0x3D] argument with
    | some (name, value) => (name, some value)
    | none => (argument, none)
  match (Utf8.decode? name).bind ofLong? with
  | some name => s.take name attached
  | none => .error .unknownArgument

/-- Reads an argument that is no option: the value of the option in front of it. -/
def plain (s : State) (argument : Bytes) : Except Refusal State :=
  match s.waiting with
  | some (option, none) => .ok { s with waiting := some (option, some argument) }
  | _ => .error .unknownArgument

end State

/-- Reads the arguments from some state on. Nothing may follow two dashes that stand alone. -/
def parseFrom (s : State) : List Bytes → Except Refusal Options
  | [] => s.settle
  | argument :: rest =>
    match argument with
    | [0x2D, 0x2D] => if rest.isEmpty then s.settle else .error .unknownArgument
    | 0x2D :: 0x2D :: name => do parseFrom (← s.long name) rest
    | 0x2D :: b :: letters => do parseFrom (← s.cluster (Utf8.pieces (b :: letters))) rest
    | _ => do parseFrom (← s.plain argument) rest

/-- Reads the arguments behind the name of the program. -/
def parse (arguments : List Bytes) : Except Refusal Options :=
  parseFrom {} arguments

end LinuxAudit.CommandLine
