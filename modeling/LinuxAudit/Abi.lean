import LinuxAudit.Rule.Basic

/-!
Syscall numbering. The same syscall name has different numbers under different calling conventions,
and the kernel reads the bitmap of a rule only for the architecture that the rule names.
-/

namespace LinuxAudit

structure Abi where
  name : String
  /-- The number of a syscall name. -/
  number? : String → Option UInt32
  /-- The name of a syscall number. -/
  syscallName? : UInt32 → Option String
  /-- The architecture code of a name such as `b32`, `b64` or that of a machine. -/
  arch? : String → Option UInt32
  /-- What the first selected syscall brings into a rule, so that the kernel knows which numbering
  the bitmap follows. -/
  maskPredicates : List Predicate

namespace Abi

/-- A numbering given as tables; of entries with the same key the first counts. -/
def ofTables (name : String) (syscalls archs : List (String × UInt32))
    (maskPredicates : List Predicate) : Abi where
  name
  number? wanted := (syscalls.find? (·.1 == wanted)).map (·.2)
  syscallName? nr := (syscalls.find? (·.2 == nr)).map (·.1)
  arch? wanted := (archs.find? (·.1 == wanted)).map (·.2)
  maskPredicates

end Abi

end LinuxAudit
