import LinuxAudit.Channel.Basic
import LinuxAudit.Failure
import LinuxAudit.Rule.Draft
import LinuxAudit.Settings.Ini
import LinuxAudit.Settings.Section

/-!
The settings of the program: how it uses the audit channel, and which rule it installs.
-/

namespace LinuxAudit

/-- The section `channel`. -/
structure ChannelSettings where
  /-- In milliseconds. -/
  pollInterval : Nat
  rawDelivery : Bool
  enableAuditing : Bool
  registerListener : Bool
deriving DecidableEq

namespace ChannelSettings

def ofSection (s : Section) : Except SettingsError ChannelSettings := do
  let pollInterval ← s.withDefault (.unsigned UInt64.size) "poll_interval_ms" 250
  let rawDelivery ← s.withDefault .bool "raw_delivery" false
  let enableAuditing ← s.withDefault .bool "enable_auditing" true
  let registerListener ← s.withDefault .bool "register_listener" true
  return { pollInterval, rawDelivery, enableAuditing, registerListener }

def options (settings : ChannelSettings) : Channel.Options where
  pollInterval := settings.pollInterval
  rawDelivery := settings.rawDelivery

end ChannelSettings

/-- The section `rule`. -/
structure RuleSettings where
  list : FilterList
  action : Action
  syscalls : List String
  trees : List Bytes
  files : List Bytes
  expressions : List String
  access : Option UInt32
  key : Option String
deriving DecidableEq

namespace RuleSettings

def accessReader : ValueReader UInt32 := fun text =>
  match Access.parse? text with
  | some bits => .ok bits
  | none => .error .access

/-- Paths are read as text. -/
def pathReader : ValueReader Bytes := fun text => .ok (Utf8.encode text)

def ofSection (s : Section) : Except SettingsError RuleSettings := do
  let access ← s.optional accessReader "perm"
  let list ← s.withDefault .filterList "filter_list" .exit
  let action ← s.withDefault .action "action" .always
  let syscalls ← s.list .string "syscalls"
  let trees ← s.list pathReader "watch"
  let files ← s.list pathReader "watch_files"
  let expressions ← s.list .string "fields"
  let key ← s.optional .string "key"
  return { list, action, syscalls, trees, files, expressions, access, key }

/-- Nothing says what to audit. -/
def isEmpty (settings : RuleSettings) : Bool :=
  settings.syscalls.isEmpty && settings.trees.isEmpty && settings.files.isEmpty
    && settings.expressions.isEmpty

/-- The edits that the settings ask for, in the order in which they are made. -/
def steps (settings : RuleSettings) : List Draft.Step :=
  [.setList settings.list, .setAction settings.action]
    ++ settings.syscalls.map (.select ∘ .name)
    ++ settings.trees.map .watchTree
    ++ settings.files.map .watchFile
    ++ (settings.access.map .restrictAccess).toList
    ++ settings.expressions.map .addExpression
    ++ (settings.key.map .addKey).toList

/-- Makes the edits up to the first that fails. -/
def apply (abi : Abi) (settings : RuleSettings) : Edit Unit :=
  settings.steps.forM (Draft.Step.edit abi)

end RuleSettings

/-- The settings as they stand in a text. -/
structure Settings where
  sections : List Ini.Section := []

namespace Settings

/-- The pairs of all sections of a name, in order. -/
def named (settings : Settings) (name : String) : Section :=
  .ofPairs ((settings.sections.filter (·.name == name)).flatMap (·.pairs))

def channel (settings : Settings) : Except SettingsError ChannelSettings :=
  ChannelSettings.ofSection (settings.named "channel")

def rule (settings : Settings) : Except SettingsError RuleSettings :=
  RuleSettings.ofSection (settings.named "rule")

/-- An entry for each pair that was read. -/
def log (settings : Settings) : List Log.Entry :=
  settings.sections.flatMap fun s =>
    s.pairs.map fun (key, value) => ⟨.debug, s.name ++ "." ++ key ++ "=" ++ value⟩

/-- Reads settings from a text. -/
def parse (text : String) : Except Failure Settings :=
  match Ini.parse text with
  | .ok sections => .ok ⟨sections⟩
  | .error message => .error ⟨message, []⟩

end Settings

end LinuxAudit
