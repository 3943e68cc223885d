import LinuxAudit.Netlink.Datagram

/-!
The status of the audit subsystem, eleven words on the wire. Old kernels send fewer of them, but
never fewer than eight; what is not sent is zero.
-/

namespace LinuxAudit

structure Status where
  /-- Which of the values a change sets. -/
  mask : UInt32 := 0
  enabled : UInt32 := 0
  failure : UInt32 := 0
  pid : UInt32 := 0
  rateLimit : UInt32 := 0
  backlogLimit : UInt32 := 0
  lost : UInt32 := 0
  backlog : UInt32 := 0
  features : UInt32 := 0
  backlogWaitTime : UInt32 := 0
  backlogWaitTimeActual : UInt32 := 0
deriving DecidableEq

namespace Status

def setsEnabled : UInt32 := 1

def setsFailure : UInt32 := 2

def setsPid : UInt32 := 4

/-- The change that turns auditing on or off. -/
def enabling (enabled : Bool) : Status :=
  { mask := setsEnabled, enabled := if enabled then 1 else 0 }

/-- The change that makes a process the one that receives records. -/
def listening (pid : UInt32) : Status :=
  { mask := setsPid, pid }

def isEnabled (status : Status) : Bool :=
  status.enabled != 0

def words (s : Status) : List UInt32 :=
  [s.mask, s.enabled, s.failure, s.pid, s.rateLimit, s.backlogLimit, s.lost, s.backlog, s.features,
    s.backlogWaitTime, s.backlogWaitTimeActual]

/-- The status of a list of words; a missing word is zero. -/
def ofWords (words : List UInt32) : Status :=
  let word (i : Nat) : UInt32 := words.getD i 0
  { mask := word 0, enabled := word 1, failure := word 2, pid := word 3, rateLimit := word 4
    backlogLimit := word 5, lost := word 6, backlog := word 7, features := word 8
    backlogWaitTime := word 9, backlogWaitTimeActual := word 10 }

/-- The fewest bytes of a status. -/
def minSize : Nat := 32

def encode (status : Status) : Bytes :=
  Bytes.ofWords status.words

def decode (data : Bytes) : Except Malformation Status :=
  if data.length < minSize then .error (.statusSize data.length)
  else .ok (ofWords (Bytes.words data))

end Status

end LinuxAudit
