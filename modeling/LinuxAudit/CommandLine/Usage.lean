import LinuxAudit.CommandLine

/-!
What the program says about its command line.
-/

namespace LinuxAudit.CommandLine

def programName : String := "kaudit"

def versionLine : String := programName ++ " 0.9.0"

/-- An option with the value that it takes, and what it is for. -/
def optionLines : List (String × String) := [
  ("    --config-file <FILE>", "Configuration file, defaults to /etc/kaudit/kaudit.ini when present"),
  ("-S, --syscall <NAME>", "Syscall to audit, by name (repeatable, all selects every syscall)"),
  ("-w, --watch <DIR>", "Directory tree to watch (repeatable)"),
  ("    --watch-file <FILE>", "Single file to watch (repeatable)"),
  ("-F, --field <EXPRESSION>", "Field predicate such as uid>=1000 (repeatable)"),
  ("-p, --perm <PERM>", "Watch permissions, any of rwxa"),
  ("-k, --key <KEY>", "Key attached to generated records"),
  ("    --filter-list <LIST>", "Filter list that holds the rule"),
  ("    --action <ACTION>", "Action when the rule matches"),
  ("    --raw", "Print every record as it arrives instead of grouping by event"),
  ("    --keep-rule", "Leave the rule installed on exit"),
  ("    --dry-run", "Print the rule and exit without contacting the kernel"),
  ("-v, --verbose", "Pass once for debug logs, twice for trace logs"),
  ("-h, --help", "Print help"),
  ("-V, --version", "Print version")]

def usageLine : String := "Usage: " ++ programName ++ " [OPTIONS]"

def help : String :=
  let width := (optionLines.map (·.1.length)).foldl max 0
  let line := fun (option, purpose) =>
    "  " ++ option ++ String.ofList (List.replicate (width - option.length + 2) ' ') ++ purpose
  "\n".intercalate <|
    ["Install a Linux audit rule and print the events it generates", "", usageLine, "", "Options:"]
      ++ optionLines.map line

def Refusal.message : Refusal → String
  | displayHelp => help
  | displayVersion => versionLine
  | unknownArgument => "unexpected argument found"
  | argumentConflict => "an argument cannot be used multiple times"
  | invalidValue => "a value is required for an argument but none was supplied"
  | tooManyValues => "unexpected value for an argument found; no more were expected"
  | valueValidation => "invalid value for an argument"
  | invalidUtf8 => "invalid UTF-8 was detected in one or more arguments"

/-- Help and version are asked for; all else is an error. -/
def Refusal.isError : Refusal → Bool
  | displayHelp | displayVersion => false
  | _ => true

end LinuxAudit.CommandLine
