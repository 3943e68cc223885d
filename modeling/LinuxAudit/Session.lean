import LinuxAudit.Abi.Machine
import LinuxAudit.CommandLine
import LinuxAudit.Report.StatusTable

/-!
A run of the program up to the point where it would contact the kernel: the settings of the file and
the command line are joined, the rule is built, and its table is printed.
-/

namespace LinuxAudit

/-- What lies at a path. -/
inductive FileState
  | missing
  | unreadable (reason : String)
  | contents (data : Bytes)

/-- What a run prints and logs, and how it ends. -/
structure Session where
  printed : String := ""
  log : List Log.Entry := []
  result : Except Failure Unit := .ok ()

namespace Session

/-- The settings file that is read if no other is named. -/
def defaultFile : String := "/etc/kaudit/kaudit.ini"

/-- The settings of a file; a byte order mark at its beginning does not count. -/
def settingsOfFile (name : String) (data : Bytes) : Except Failure Settings :=
  let context := "Error loading configuration from " ++ Quoted.path (Utf8.encode name)
  let data := (Text.after? [0xEF, 0xBB, 0xBF] data).getD data
  match Utf8.decode? data with
  | none => .error ⟨context, ["stream did not contain valid UTF-8"]⟩
  | some text => (Settings.parse text).mapError (·.under context)

/-- The settings of a text. -/
def settingsOfText (text : String) : Except Failure Settings :=
  (Settings.parse text).mapError (·.under "Error parsing configuration")

/-- The settings of the file that the command line names, which must exist, or of the default file,
which need not. -/
def settings (named : Option String) (file : FileState) : Except Failure Settings :=
  match named, file with
  | none, .missing => .ok {}
  | some name, .missing => .error ⟨"Configuration file " ++ name ++ " not found", []⟩
  | named, .unreadable reason =>
    .error ⟨"Error loading configuration from "
      ++ Quoted.path (Utf8.encode (named.getD defaultFile)), [reason]⟩
  | named, .contents data => settingsOfFile (named.getD defaultFile) data

/-- What finding the settings leaves in the log. -/
def settingsLog (named : Option String) (file : FileState) (settings : Settings) :
    List Log.Entry :=
  match named, file with
  | none, .missing => [⟨.debug, defaultFile ++ " not found, using defaults"⟩]
  | _, _ => settings.log

/-- The names of the filter lists and actions in the log. -/
def listName : FilterList → String
  | .user => "User"
  | .task => "Task"
  | .entry => "Entry"
  | .watch => "Watch"
  | .exit => "Exit"
  | .exclude => "Exclude"
  | .filesystem => "Filesystem"
  | .ioUring => "UringExit"

def actionName : Action → String
  | .never => "Never"
  | .possible => "Possible"
  | .always => "Always"

/-- The options as the log shows them. -/
def optionsText (o : CommandLine.Options) : String :=
  let maybe {α : Type} (shown : α → String) : Option α → String
    | some a => "Some(" ++ shown a ++ ")"
    | none => "None"
  let all {α : Type} (shown : α → String) (as : List α) : String :=
    "[" ++ ", ".intercalate (as.map shown) ++ "]"
  let fields : List (String × String) := [
    ("config_file", maybe Quoted.text o.configFile),
    ("syscalls", all Quoted.text o.syscalls),
    ("watch", all Quoted.path o.trees),
    ("watch_files", all Quoted.path o.files),
    ("fields", all Quoted.text o.expressions),
    ("perm", maybe (toString ·.toNat) o.access),
    ("key", maybe Quoted.text o.key),
    ("filter_list", maybe listName o.list),
    ("action", maybe actionName o.action),
    ("raw", toString o.raw),
    ("keep_rule", toString o.keepRule),
    ("dry_run", toString o.dryRun),
    ("verbose", toString o.verbosity)]
  "KauditOpts \x7b " ++ ", ".intercalate (fields.map fun (name, value) => name ++ ": " ++ value)
    ++ " \x7d"

/-- The channel settings that a run uses, and its rule. -/
structure Plan where
  channel : ChannelSettings
  draft : Draft

/-- Joins settings and command line, and builds the rule. The log of the draft is given back also if
the rule cannot be built. -/
def plan (abi : Abi) (options : CommandLine.Options) (settings : Settings) :
    Except Failure Plan × List Log.Entry :=
  match settings.channel with
  | .error e => (.error ⟨"invalid [channel] section", [e.message]⟩, [])
  | .ok channel =>
    match settings.rule with
    | .error e => (.error ⟨"invalid [rule] section", [e.message]⟩, [])
    | .ok rule =>
      let rule := options.mergeInto rule
      if rule.isEmpty then
        (.error ⟨"Nothing to audit: pass --syscall, --watch, --watch-file or --field", []⟩, [])
      else
        match (rule.apply abi).run {} with
        | .error e draft => (.error ⟨"invalid rule", [e.message]⟩, draft.log)
        | .ok _ draft =>
          let channel := { channel with rawDelivery := channel.rawDelivery || options.raw }
          (.ok ⟨channel, draft⟩, draft.log)

/-- Runs the program up to where it would contact the kernel. -/
def prepare (abi : Abi) (options : CommandLine.Options) (file : FileState) :
    Session × Option Plan :=
  let started := [⟨.trace, "kaudit options: " ++ optionsText options⟩]
  match settings options.configFile file with
  | .error failure => ({ log := started, result := .error failure }, none)
  | .ok settings =>
    let (plan, built) := plan abi options settings
    let log := started ++ settingsLog options.configFile file settings ++ built
    match plan with
    | .error failure => ({ log, result := .error failure }, none)
    | .ok plan => ({ log, printed := plan.draft.rule.report abi.syscallName? }, some plan)

end Session

end LinuxAudit
