import LinuxAudit.Netlink.Message
import LinuxAudit.Rule.Basic

/-!
Datagrams of the audit socket. A datagram holds messages one after the other, each padded to a
multiple of four bytes. The declared length of a message counts its header, except that the kernel
sends a record alone in its datagram, without padding, and counts the payload only. A message is
read that way if it is a record and its payload, so counted, would end the datagram.
-/

namespace LinuxAudit

/-- Flag of a request. -/
def requestFlag : UInt16 := 1

/-- Flag that asks for an acknowledgement. -/
def ackFlag : UInt16 := 4

/-- What is wrong with a datagram or a reply. -/
inductive Malformation
  | trailing (length : Nat)
  | tooLong (declared : Nat)
  | belowHeader (declared : Nat)
  | cutShort (declared received : Nat)
  | noErrorCode
  | statusSize (length : Nat)
deriving DecidableEq

def Malformation.message : Malformation → String
  | trailing length => s!"{length} trailing bytes are shorter than a netlink header"
  | tooLong declared => s!"declared length {declared} exceeds the maximum of {maxMessageLength}"
  | belowHeader declared => s!"declared length {declared} is shorter than the header"
  | cutShort declared received =>
    s!"declared length {declared} but only {received} bytes received"
  | noErrorCode => "error reply without an error code"
  | statusSize length => s!"audit status of {length} bytes"

namespace Datagram

/-- The next multiple of four. -/
def aligned (length : Nat) : Nat :=
  (length + 3) / 4 * 4

/-- A request with its header and padding. -/
def encode (type : MessageType) (flags : UInt16) (sequence : UInt32) (payload : Bytes) : Bytes :=
  let length := messageHeaderSize + payload.length
  { length := UInt32.ofNat length, type, flags, sequence : Header }.encode ++ payload
    ++ List.replicate (aligned length - length) 0

/-- A record as the kernel sends it. -/
def ofRecord (type : MessageType) (payload : Bytes) : Bytes :=
  { length := UInt32.ofNat payload.length, type : Header }.encode ++ payload

/-- The bytes that the first message of a datagram takes up, its padding left out. -/
def extent (header : Header) (received : Nat) : Nat :=
  let declared := header.length.toNat
  if header.type.isRecord ∧ declared + messageHeaderSize = received then
    declared + messageHeaderSize
  else declared

/-- Reads the first message of a datagram and gives back what follows its padding. -/
def first (data : Bytes) : Except Malformation (Message × Bytes) :=
  match Header.decode? data with
  | none => .error (.trailing data.length)
  | some (header, behind) =>
    let length := extent header data.length
    if header.length.toNat > maxMessageLength then .error (.tooLong header.length.toNat)
    else if length < messageHeaderSize then .error (.belowHeader length)
    else if length > data.length then .error (.cutShort length data.length)
    else
      let message : Message := ⟨header, behind.take (length - messageHeaderSize)⟩
      if header.type = .error ∧ message.payload.length < 4 then .error .noErrorCode
      else .ok (message, data.drop (aligned length))

theorem first_length_lt {data rest : Bytes} {message : Message}
    (h : first data = .ok (message, rest)) : rest.length < data.length := by
  unfold first at h
  split at h
  · cases h
  · rename_i header behind hdecode
    simp only at h
    split at h
    · cases h
    split at h
    · cases h
    split at h
    · cases h
    rename_i hheader hreceived
    split at h
    · cases h
    simp only [Except.ok.injEq, Prod.mk.injEq] at h
    rw [← h.2, List.length_drop]
    simp only [aligned, messageHeaderSize] at hheader hreceived ⊢
    omega

/-- The messages of a datagram, all of them or none. -/
def decode (data : Bytes) : Except Malformation (List Message) :=
  if data.isEmpty then .ok []
  else match h : first data with
    | .error e => .error e
    | .ok (message, rest) =>
      have := first_length_lt h
      (decode rest).map (message :: ·)
termination_by data.length

end Datagram

end LinuxAudit
