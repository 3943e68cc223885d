import LinuxAudit.Errno
import LinuxAudit.Netlink.Datagram

/-!
Why an operation on the audit channel fails.
-/

namespace LinuxAudit

inductive ChannelError
  | permissionDenied (errno : Errno)
  | unavailable (errno : Errno)
  | duplicateRule
  | invalidRule
  | notPermitted
  | ruleNotFound
  | malformed (fault : Malformation)
  | transport (errno : Errno)
  | interrupted
  | noReply (type : MessageType) (sequence : UInt32)
  | kernel (errno : Errno)
  /-- The receives that the caller allowed are used up. -/
  | exhausted
deriving DecidableEq

namespace ChannelError

/-- What an error reply with a number other than zero means. -/
def ofErrorCode (code : Int) : ChannelError :=
  let errno := Errno.ofCode code
  if errno = .alreadyExists then duplicateRule
  else if errno = .noEntry then ruleNotFound
  else if errno = .invalidArgument then invalidRule
  else if errno = .notPermitted ∨ errno = .accessDenied then notPermitted
  else kernel errno

def message : ChannelError → String
  | permissionDenied _ => "opening the audit socket requires CAP_AUDIT_CONTROL"
  | unavailable _ => "audit subsystem unavailable"
  | duplicateRule => "rule already installed"
  | invalidRule => "kernel rejected the rule as invalid"
  | notPermitted => "operation not permitted"
  | ruleNotFound => "rule not found"
  | malformed fault => "malformed message: " ++ fault.message
  | transport _ => "audit socket i/o"
  | interrupted => "receive interrupted by stop signal"
  | noReply type sequence => s!"no reply to {type.label} request {sequence.toNat}"
  | kernel errno => "kernel returned " ++ errno.message
  | exhausted => "nothing arrived in the receives allowed"

/-- After a fatal error the socket has to be opened anew. -/
def isFatal : ChannelError → Bool
  | permissionDenied _ | unavailable _ | transport _ => true
  | _ => false

end ChannelError

end LinuxAudit
