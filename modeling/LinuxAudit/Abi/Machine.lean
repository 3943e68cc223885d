import LinuxAudit.Abi
import LinuxAudit.Abi.Syscalls.Aarch64
import LinuxAudit.Abi.Syscalls.I386
import LinuxAudit.Abi.Syscalls.X8664

/-!
The machines whose syscall numbers are built in, and the architecture codes of the audit subsystem.
-/

namespace LinuxAudit

namespace Arch

def x8664 : UInt32 := 0xC000003E

def i386 : UInt32 := 0x40000003

def aarch64 : UInt32 := 0xC00000B7

def arm : UInt32 := 0x40000028

end Arch

inductive Machine
  | x8664
  | i386
  | aarch64
deriving DecidableEq

namespace Machine

/-- The machine with a name that a kernel reports for itself. -/
def ofKernelName? : String → Option Machine
  | "x86_64" => some x8664
  | "i386" | "i486" | "i586" | "i686" => some i386
  | "aarch64" | "arm64" => some aarch64
  | _ => none

def arch : Machine → UInt32
  | x8664 => Arch.x8664
  | i386 => Arch.i386
  | aarch64 => Arch.aarch64

def syscalls : Machine → List (UInt32 × String)
  | x8664 => Syscalls.x8664
  | i386 => Syscalls.i386
  | aarch64 => Syscalls.aarch64

/-- The code of the machine's own 64-bit or 32-bit convention, or of a machine given by name. -/
def arch? (machine : Machine) (name : String) : Option UInt32 :=
  match machine, name with
  | x8664, "b64" | i386, "b64" => some Arch.x8664
  | x8664, "b32" | i386, "b32" => some Arch.i386
  | aarch64, "b64" => some Arch.aarch64
  | aarch64, "b32" => some Arch.arm
  | _, name => (ofKernelName? name).map arch

def abi (machine : Machine) : Abi where
  name := match machine with
    | x8664 | aarch64 => "b64"
    | i386 => "b32"
  number? name := (machine.syscalls.find? (·.2 == name)).map (·.1)
  syscallName? nr := (machine.syscalls.find? (·.1 == nr)).map (·.2)
  arch? := machine.arch?
  maskPredicates := [⟨.arch, .equal, machine.arch⟩]

end Machine

end LinuxAudit
