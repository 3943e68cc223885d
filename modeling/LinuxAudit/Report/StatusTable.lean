import LinuxAudit.Report.Table
import LinuxAudit.Rule.Clause
import LinuxAudit.Status

/-!
The tables that show the status of the audit subsystem and a rule.
-/

namespace LinuxAudit

def Status.table (status : Status) : Table where
  header := ["STATUS", "VALUE"]
  rows := [
    ["enabled", toString status.enabled.toNat],
    ["pid", toString status.pid.toNat],
    ["backlog", toString status.backlog.toNat],
    ["backlog_limit", toString status.backlogLimit.toNat],
    ["lost", toString status.lost.toNat],
    ["rate_limit", toString status.rateLimit.toNat]]

def Status.report (status : Status) : String :=
  status.table.render ++ "\n"

namespace Rule

/-- A row for the selected syscalls, if there are any, then a row for each predicate. -/
def table (syscallName? : UInt32 → Option String) (rule : Rule) : Table where
  header := ["FIELD", "OP", "VALUE"]
  rows :=
    let syscalls := ",".intercalate ((rule.selections syscallName?).map (·.text))
    let first := if syscalls.isEmpty then [] else [["syscall", "", syscalls]]
    first ++ rule.operands.map fun (p, operand) => [p.field.name, p.operator.symbol, operand.plain]

/-- The target of the rule on a line, then its table. -/
def report (syscallName? : UInt32 → Option String) (rule : Rule) : String :=
  rule.action.name ++ " " ++ rule.list.name ++ "\n" ++ (rule.table syscallName?).render ++ "\n"

end Rule

end LinuxAudit
