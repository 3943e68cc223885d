import LinuxAudit.Channel.Error
import LinuxAudit.CommandLine.Usage
import LinuxAudit.Session

/-!
The program. It prepares the rule that settings and command line ask for and prints its table. A
dry run ends there; any other run goes on to open the audit socket, which is not available here.
-/

namespace LinuxAudit

/-- What lies at a path. -/
def fileAt (name : String) : IO FileState := do
  try
    return .contents (← IO.FS.readBinFile name).toList
  catch
    | .noFileOrDirectory _ _ _ => return .missing
    | .inappropriateType _ code details => return .unreadable s!"{details} (os error {code})"
    | .permissionDenied _ code details => return .unreadable s!"{details} (os error {code})"
    | e => return .unreadable (toString e)

/-- The machine of the running kernel, where the kernel tells; else the most common one. -/
def runningMachine : IO Machine := do
  try
    let name ← IO.FS.readFile "/proc/sys/kernel/arch"
    return (Machine.ofKernelName? name.trimAscii.toString).getD .x8664
  catch _ => return .x8664

/-- How a run ends after its table is printed. -/
def finish (options : CommandLine.Options) (result : Except Failure Unit) : Except Failure Unit :=
  match result with
  | .error failure => .error failure
  | .ok () =>
    if options.dryRun then .ok ()
    else .error ⟨(ChannelError.unavailable .notSupported).message, [Errno.notSupported.message]⟩

def run (options : CommandLine.Options) : IO UInt32 := do
  let file ← fileAt (options.configFile.getD Session.defaultFile)
  let (session, _) := Session.prepare (← runningMachine).abi options file
  let say (entry : Log.Entry) : IO Unit := do
    if entry.shownAt options.logLevel then IO.eprintln entry.line
  session.log.forM say
  IO.print session.printed
  match finish options session.result with
  | .ok () => return 0
  | .error failure =>
    say (failure.entry options.logLevel)
    return 1

end LinuxAudit

open LinuxAudit in
def main (args : List String) : IO UInt32 :=
  match CommandLine.parse (args.map Utf8.encode) with
  | .ok options => run options
  | .error refusal => do
    if refusal.isError then
      IO.eprintln ("error: " ++ refusal.message ++ "\n\n" ++ CommandLine.usageLine)
      return 2
    IO.println refusal.message
    return 0
