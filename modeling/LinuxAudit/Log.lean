/-!
Log entries. Operations append the entries they cause to their state; which of them are shown is
up to the reader of the log.
-/

namespace LinuxAudit.Log

inductive Level
  | error
  | warn
  | info
  | debug
  | trace
deriving DecidableEq

namespace Level

def name : Level → String
  | error => "ERROR"
  | warn => "WARN"
  | info => "INFO"
  | debug => "DEBUG"
  | trace => "TRACE"

/-- Levels ranked from the gravest on. -/
def rank : Level → Nat
  | error => 1
  | warn => 2
  | info => 3
  | debug => 4
  | trace => 5

end Level

structure Entry where
  level : Level
  text : String
deriving DecidableEq

namespace Entry

/-- An entry is shown by a log open to a level if it is at least as grave. -/
def shownAt (limit : Level) (entry : Entry) : Bool :=
  entry.level.rank ≤ limit.rank

def line (entry : Entry) : String :=
  entry.level.name ++ " " ++ entry.text

end Entry

end LinuxAudit.Log
