import LinuxAudit.Channel.Transport

/-!
A transport that plays a script: each receive takes the next item. With the script used up, a
receive that may wait times out with an error, and one that may not finds nothing.
-/

namespace LinuxAudit

inductive Script.Item
  | datagram (data : Bytes)
  | nothing
  /-- The stop signal is raised, and nothing arrives. -/
  | stop
  | failure (errno : Errno)

structure Script where
  items : List Script.Item
  /-- The errors of the sends to come; a send without one succeeds. -/
  sendErrors : List (Option Errno) := []
  /-- The requests that were sent. -/
  sent : List Message := []

namespace Script

def Item.reception : Item → Reception
  | datagram data => ⟨.ofDatagram data, false⟩
  | nothing => ⟨.nothing, false⟩
  | stop => ⟨.nothing, true⟩
  | failure errno => ⟨.failure errno, false⟩

def receive (s : Script) (wait : Wait) : Reception × Script :=
  match s.items with
  | item :: items => (item.reception, { s with items })
  | [] => (⟨if wait = .none then .nothing else .failure .timedOut, false⟩, s)

/-- Keeps a request that can be read, unless the send is to fail. -/
def send (s : Script) (data : Bytes) : Option Errno × Script :=
  let s' := { s with sendErrors := s.sendErrors.tail }
  match s.sendErrors.head?.join with
  | some errno => (some errno, s')
  | none =>
    match Datagram.decode data with
    | .ok messages => (none, { s' with sent := s.sent ++ messages })
    | .error _ => (some .invalidArgument, s')

instance : Transport Script where
  send := send
  receive := receive
  receivesWithin s _ := s.items.length + 1

end Script

end LinuxAudit
