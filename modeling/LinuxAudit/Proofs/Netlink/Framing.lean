import Mathlib
import LinuxAudit.Proofs.Netlink.Frame

/-! Messages in their frames. A message that is written in front of other bytes is read back, and
reading goes on behind its padding: `decode_encode_append`. What is read was checked:
`errorCode?_isSome_of_decode` says that an error reply that came out of a datagram has a number. -/

namespace LinuxAudit

namespace Datagram

theorem length_encode (type : MessageType) (flags : UInt16) (sequence : UInt32)
    (payload : Bytes) :
    (encode type flags sequence payload).length = aligned (declared payload) := by
  have h := le_aligned (declared payload)
  simp only [encode, List.length_append, Header.length_encode, List.length_replicate]
  rw [← declared]
  omega

/-- The message that a request is read as. -/
def request (type : MessageType) (flags : UInt16) (sequence : UInt32) (payload : Bytes) :
    Message where
  header := { length := UInt32.ofNat (declared payload), type, flags, sequence }
  payload

variable {type : MessageType} {flags : UInt16} {sequence : UInt32} {payload : Bytes}

theorem toNat_declared (hfits : declared payload ≤ maxMessageLength) :
    (UInt32.ofNat (declared payload)).toNat = declared payload := by
  rw [UInt32.toNat_ofNat', maxMessageLength] at *
  omega

theorem header_encode_append (type : MessageType) (flags : UInt16) (sequence : UInt32)
    (payload rest : Bytes) :
    Header.decode? (encode type flags sequence payload ++ rest) =
      some ((request type flags sequence payload).header, payload ++
        (List.replicate (aligned (declared payload) - declared payload) 0 ++ rest)) := by
  rw [encode]
  simp only [List.append_assoc]
  exact Header.decode?_encode_append _ _

/-- A request in front of other bytes is the first message, unless it counts as a record whose
payload alone was declared. -/
theorem first_encode_append (hfits : declared payload ≤ maxMessageLength)
    (herror : type = .error → 4 ≤ payload.length) {rest : Bytes}
    (hextent : type.isRecord →
      declared payload + messageHeaderSize ≠ aligned (declared payload) + rest.length) :
    first (encode type flags sequence payload ++ rest) =
      .ok (request type flags sequence payload, rest) := by
  have hlength := length_encode type flags sequence payload
  have hdeclared := toNat_declared hfits
  refine first_eq_ok_iff.2
    ⟨List.replicate (aligned (declared payload) - declared payload) 0, rfl, ?_, ?_, herror, ?_⟩
  · show extent _ (encode type flags sequence payload ++ rest).length = declared payload
    rw [extent, List.length_append, hlength]
    simp only [request, hdeclared]
    rw [if_neg]
    rintro ⟨hrecord, heq⟩
    exact hextent hrecord heq
  · exact hdeclared.trans_le hfits
  · show (encode type flags sequence payload).length =
      min (aligned (declared payload)) (encode type flags sequence payload ++ rest).length
    rw [List.length_append, hlength]
    omega

/-- A request in front of other messages is read back. -/
theorem decode_encode_append (hfits : declared payload ≤ maxMessageLength)
    (herror : type = .error → 4 ≤ payload.length) {rest : Bytes}
    (hextent : type.isRecord →
      declared payload + messageHeaderSize ≠ aligned (declared payload) + rest.length) :
    decode (encode type flags sequence payload ++ rest) =
      (decode rest).map (request type flags sequence payload :: ·) :=
  decode_of_first (first_encode_append hfits herror hextent)

/-- A request or a reply alone in its datagram is the only message of it. -/
theorem decode_encode_alone (hfits : declared payload ≤ maxMessageLength) (htype : ¬type.isRecord)
    (herror : type = .error → 4 ≤ payload.length) :
    decode (encode type flags sequence payload) = .ok [request type flags sequence payload] := by
  have h : decode (encode type flags sequence payload ++ []) = _ :=
    decode_encode_append hfits herror (fun h => absurd h htype)
  rw [List.append_nil] at h
  rw [h, decode_nil]
  rfl

theorem decode_encode (hfits : declared payload ≤ maxMessageLength) (htype : ¬type.isRecord)
    (herror : type ≠ .error) :
    decode (encode type flags sequence payload) = .ok [request type flags sequence payload] :=
  decode_encode_alone hfits htype fun h => absurd h herror

/-- A record alone in its datagram is read whole if its payload alone is declared. -/
theorem decode_record {header : Header} {payload : Bytes} (hrecord : header.type.isRecord)
    (hlength : header.length.toNat = payload.length)
    (hfits : payload.length ≤ maxMessageLength) :
    decode (header.encode ++ payload) = .ok [⟨header, payload⟩] := by
  let f : Framed := ⟨⟨header, payload⟩, []⟩
  have hall : f.bytes.length = payload.length + messageHeaderSize := by
    rw [f.length_bytes, declared, Nat.add_comm messageHeaderSize]
    rfl
  have hleads : f.Leads (laidOut []) := by
    refine ⟨?_, hlength.trans_le hfits, ?_, ?_⟩
    · show extent header (f.bytes ++ []).length = declared payload
      rw [List.append_nil, hall, extent, hlength, if_pos ⟨hrecord, rfl⟩, declared, Nat.add_comm]
    · intro htype
      rw [show header.type = .error from htype] at hrecord
      exact absurd hrecord (by decide)
    · show f.bytes.length = min (aligned (declared payload)) (f.bytes ++ []).length
      rw [List.append_nil, hall, declared, Nat.add_comm, Nat.min_eq_right (le_aligned _)]
  refine decode_eq_ok_iff.2 ⟨[f], .cons hleads .nil, ?_, rfl⟩
  simp [laidOut, Framed.bytes, f]

/-- What declares more than the longest message is refused. -/
theorem decode_tooLong {header : Header} (hlength : maxMessageLength < header.length.toNat)
    (behind : Bytes) :
    decode (header.encode ++ behind) = .error (.tooLong header.length.toNat) := by
  apply decode_of_first_error
  · rw [Ne, ← List.length_eq_zero_iff, List.length_append, Header.length_encode]
    exact Nat.ne_of_gt (Nat.add_pos_left (by decide) _)
  · rw [first, Header.decode?_encode_append]
    exact if_pos hlength

/-- An error reply that came out of a datagram has a number. -/
theorem errorCode?_isSome_of_decode {data : Bytes} {messages : List Message}
    (h : decode data = .ok messages) {message : Message} (hmem : message ∈ messages)
    (htype : message.header.type = .error) : message.errorCode?.isSome := by
  obtain ⟨frames, hsound, -, rfl⟩ := decode_eq_ok_iff.1 h
  obtain ⟨f, hf, rfl⟩ := List.mem_map.1 hmem
  obtain ⟨front, behind, rfl⟩ := List.append_of_mem hf
  exact f.message.errorCode?_isSome htype (hsound.leads.code htype)

end Datagram

end LinuxAudit
