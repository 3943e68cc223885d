import LinuxAudit.Errno
import LinuxAudit.Netlink.Datagram

/-!
What the audit channel needs of a socket. A transport is a state with an answer to each send and
each receive, so that a real socket, a script of arrivals and a kernel in memory all serve.
-/

namespace LinuxAudit

/-- How long a receive may wait for a datagram. -/
inductive Wait
  /-- Not at all. -/
  | none
  /-- For a poll interval. -/
  | poll
  /-- For what is left of the time that a reply may take. -/
  | reply
deriving DecidableEq

inductive Arrival
  | datagram (data : Bytes)
  | nothing
  | failure (errno : Errno)
deriving DecidableEq

/-- The outcome of a receive, and whether the stop signal was raised meanwhile. -/
structure Reception where
  arrival : Arrival
  stop : Bool := false
deriving DecidableEq

class Transport (σ : Type) where
  /-- Sends a datagram, or fails with an error number. -/
  send : σ → Bytes → Option Errno × σ
  receive : σ → Wait → Reception × σ
  /-- How many receives start before a deadline so many milliseconds ahead has passed. -/
  receivesWithin : σ → Nat → Nat

/-- The buffer that a datagram is received into. -/
def receiveBufferSize : Nat := 2 * maxMessageLength

/-- A datagram as it is received: what does not fit the buffer is lost. -/
def Arrival.ofDatagram (data : Bytes) : Arrival :=
  .datagram (data.take receiveBufferSize)

/-- What passed through a transport. -/
inductive Traffic
  | sent (data : Bytes) (failure : Option Errno)
  | received (wait : Wait) (reception : Reception)
deriving DecidableEq

/-- A transport with a record of its traffic, oldest first. -/
structure Tapped (σ : Type) where
  transport : σ
  traffic : List Traffic := []

namespace Tapped

instance {σ : Type} [Transport σ] : Transport (Tapped σ) where
  send t data :=
    let (failure, transport) := Transport.send t.transport data
    (failure, ⟨transport, t.traffic ++ [.sent data failure]⟩)
  receive t wait :=
    let (reception, transport) := Transport.receive t.transport wait
    (reception, ⟨transport, t.traffic ++ [.received wait reception]⟩)
  receivesWithin t := Transport.receivesWithin t.transport

/-- How often the transport was asked for a datagram. -/
def receives {σ : Type} (t : Tapped σ) : Nat :=
  t.traffic.countP fun
    | .received _ _ => true
    | .sent _ _ => false

/-- How long the last receive was allowed to wait. -/
def lastWait? {σ : Type} (t : Tapped σ) : Option Wait :=
  t.traffic.reverse.findSome? fun
    | .received wait _ => some wait
    | .sent _ _ => none

end Tapped

end LinuxAudit
