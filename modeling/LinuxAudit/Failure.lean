import LinuxAudit.Log
import LinuxAudit.Text.Cut

/-!
Failures with their causes, and how they are reported.
-/

namespace LinuxAudit

/-- What went wrong, then the cause of it, then the cause of that. -/
structure Failure where
  error : String
  causes : List String := []
deriving DecidableEq

namespace Failure

/-- Puts a failure under a broader one. -/
def under (f : Failure) (error : String) : Failure :=
  ⟨error, f.error :: f.causes⟩

def chain (f : Failure) : List String :=
  f.error :: f.causes

/-- Error and causes on one line. -/
def line (f : Failure) : String :=
  ": ".intercalate f.chain

/-- A text with its first line behind one indentation and its other lines behind another. -/
def indented (first others text : String) : String :=
  first ++ ("\n" ++ others).intercalate ((Text.fields '\n' text.toList).map String.ofList)

/-- The number of a cause, right-aligned. -/
def numbering (n : Nat) : String :=
  let digits := toString n
  String.ofList (List.replicate (5 - digits.length) ' ') ++ digits ++ ": "

/-- The error, then its causes on lines of their own, numbered if there are several. -/
def full (f : Failure) : String :=
  match f.causes with
  | [] => f.error
  | [cause] => f.error ++ "\n\nCaused by:\n" ++ indented "    " "    " cause
  | causes =>
    f.error ++ "\n\nCaused by:\n" ++ "\n".intercalate
      (causes.mapIdx fun i cause => indented (numbering i) "       " cause)

/-- The log entry that reports a failure; a log open to debugging shows it in full. -/
def entry (limit : Log.Level) (f : Failure) : Log.Entry :=
  ⟨.error, if Log.Level.debug.rank ≤ limit.rank then f.full else f.line⟩

end Failure

end LinuxAudit
