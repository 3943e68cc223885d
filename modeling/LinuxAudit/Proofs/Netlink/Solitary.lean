import Mathlib
import LinuxAudit.Proofs.Netlink.Framing

/-! A message alone in its datagram. Its header declares all of it, or, as the kernel writes records,
its payload alone. `decode_solitary` says for both framings up to which payload the message is read,
what a longer one is refused for, and that the two framings of a record are read alike. -/

namespace LinuxAudit.Datagram

/-- The message that a record sent by the kernel is read as. -/
def record (type : MessageType) (payload : Bytes) : Message where
  header := { length := UInt32.ofNat payload.length, type }
  payload

/-! ### All of it declared -/

section

variable {type : MessageType} {flags : UInt16} {sequence : UInt32} {payload : Bytes}

/-- Alone in its datagram, a message that declares all of it never counts as a record with its
payload alone declared: its padding is shorter than a header. -/
theorem decode_encode_solitary (hfits : declared payload ≤ maxMessageLength)
    (herror : type = .error → 4 ≤ payload.length) :
    decode (encode type flags sequence payload) = .ok [request type flags sequence payload] := by
  have hpadding := aligned_lt (declared payload)
  have halone : decode (encode type flags sequence payload ++ []) = _ :=
    decode_encode_append hfits herror fun _ => by
      rw [List.length_nil, messageHeaderSize]
      omega
  rw [List.append_nil] at halone
  rw [halone, decode_nil]
  rfl

theorem decode_encode_tooLong (hsize : declared payload < UInt32.size)
    (hlong : maxMessageLength < declared payload) :
    decode (encode type flags sequence payload) = .error (.tooLong (declared payload)) := by
  have hdeclared : (UInt32.ofNat (declared payload)).toNat = declared payload :=
    UInt32.toNat_ofNat_of_lt' hsize
  rw [encode, ← declared, List.append_assoc, decode_tooLong (hdeclared.symm ▸ hlong), hdeclared]

/-- An error reply with too few bytes for a number is refused once its framing is found good. -/
theorem decode_encode_noErrorCode (hfew : payload.length < 4) :
    decode (encode .error flags sequence payload) = .error .noErrorCode := by
  have hfits : declared payload ≤ maxMessageLength := by
    rw [declared, messageHeaderSize, maxMessageLength]
    omega
  have hlength := length_encode .error flags sequence payload
  have hpadded := le_aligned (declared payload)
  have hdata := header_encode_append .error flags sequence payload []
  rw [List.append_nil] at hdata
  apply decode_of_first_error
  · rw [Ne, ← List.length_eq_zero_iff, hlength]
    rw [declared, messageHeaderSize] at hpadded ⊢
    omega
  · have hreply : ¬MessageType.error.isRecord := by decide
    have hextent : extent (request .error flags sequence payload).header
        (encode .error flags sequence payload).length = declared payload := by
      rw [extent, if_neg fun h => hreply h.1]
      exact toNat_declared hfits
    rw [first, hdata]
    simp only [hextent]
    rw [if_neg, if_neg, if_neg, if_pos]
    · refine ⟨rfl, ?_⟩
      rw [List.length_take]
      rw [declared]
      omega
    · omega
    · rw [declared]
      omega
    · exact Nat.not_lt.2 ((toNat_declared hfits).trans_le hfits)

/-- What a message alone in its datagram is read as if it declares all of it. -/
theorem decode_encode_eq (hsize : declared payload < UInt32.size) :
    decode (encode type flags sequence payload) =
      if maxMessageLength < declared payload then .error (.tooLong (declared payload))
      else if type = .error ∧ payload.length < 4 then .error .noErrorCode
      else .ok [request type flags sequence payload] := by
  split
  · rename_i hlong
    exact decode_encode_tooLong hsize hlong
  · rename_i hfits
    split
    · rename_i hfew
      rw [hfew.1]
      exact decode_encode_noErrorCode hfew.2
    · rename_i hcode
      apply decode_encode_solitary (Nat.le_of_not_lt hfits)
      intro htype
      by_contra hfew
      exact hcode ⟨htype, Nat.lt_of_not_le hfew⟩

end

/-! ### The payload alone declared -/

theorem decode_ofRecord {type : MessageType} {payload : Bytes} (hrecord : type.isRecord)
    (hfits : payload.length ≤ maxMessageLength) :
    decode (ofRecord type payload) = .ok [record type payload] := by
  have hsize : payload.length < UInt32.size := hfits.trans_lt (by decide)
  exact decode_record hrecord (UInt32.toNat_ofNat_of_lt' hsize) hfits

theorem decode_ofRecord_tooLong {type : MessageType} {payload : Bytes}
    (hsize : payload.length < UInt32.size) (hlong : maxMessageLength < payload.length) :
    decode (ofRecord type payload) = .error (.tooLong payload.length) := by
  have hdeclared : (UInt32.ofNat payload.length).toNat = payload.length :=
    UInt32.toNat_ofNat_of_lt' hsize
  rw [ofRecord, decode_tooLong (hdeclared.symm ▸ hlong), hdeclared]

/-- What a record alone in its datagram is read as if it declares its payload alone. -/
theorem decode_ofRecord_eq {type : MessageType} {payload : Bytes} (hrecord : type.isRecord)
    (hsize : payload.length < UInt32.size) :
    decode (ofRecord type payload) =
      if maxMessageLength < payload.length then .error (.tooLong payload.length)
      else .ok [record type payload] := by
  split
  · rename_i hlong
    exact decode_ofRecord_tooLong hsize hlong
  · rename_i hfits
    exact decode_ofRecord hrecord (Nat.le_of_not_lt hfits)

/-! ### Both framings -/

/-- A message that declares all of it is read back up to the longest message, an error reply with
fewer than four bytes apart, and refused otherwise. A record that declares its payload alone is read
up to a payload as long as the longest message, and refused otherwise. Where both are read, they are
the same record. Lengths that do not fit the word that declares them are left out. -/
theorem decode_solitary (type : MessageType) (flags : UInt16) (sequence : UInt32)
    (payload : Bytes) :
    (messageHeaderSize + payload.length < UInt32.size →
      decode (encode type flags sequence payload) =
        if maxMessageLength < messageHeaderSize + payload.length then
          .error (.tooLong (messageHeaderSize + payload.length))
        else if type = .error ∧ payload.length < 4 then .error .noErrorCode
        else .ok [⟨⟨UInt32.ofNat (messageHeaderSize + payload.length), type, flags, sequence, 0⟩,
          payload⟩]) ∧
    (type.isRecord → payload.length < UInt32.size →
      decode (ofRecord type payload) =
        if maxMessageLength < payload.length then .error (.tooLong payload.length)
        else .ok [⟨⟨UInt32.ofNat payload.length, type, 0, 0, 0⟩, payload⟩]) ∧
    (type.isRecord → messageHeaderSize + payload.length < UInt32.size → ∀ m m',
      decode (encode type flags sequence payload) = .ok [m] →
      decode (ofRecord type payload) = .ok [m'] →
        m.header.type = m'.header.type ∧ m.text = m'.text ∧ m.id? = m'.id? ∧
          m.body = m'.body) := by
  have hwhole (hsize : messageHeaderSize + payload.length < UInt32.size) :
      decode (encode type flags sequence payload) = _ := decode_encode_eq hsize
  have halone : type.isRecord → payload.length < UInt32.size → _ := decode_ofRecord_eq
  refine ⟨hwhole, halone, ?_⟩
  intro hrecord hsize m m' hm hm'
  have hpayload : payload.length < UInt32.size := (Nat.le_add_left _ _).trans_lt hsize
  simp only [hwhole hsize, except_guard_eq_ok_iff] at hm
  simp only [halone hrecord hpayload, except_guard_eq_ok_iff] at hm'
  obtain ⟨-, -, hm⟩ := hm
  obtain ⟨-, hm'⟩ := hm'
  obtain rfl := List.head_eq_of_cons_eq (Except.ok.inj hm)
  obtain rfl := List.head_eq_of_cons_eq (Except.ok.inj hm')
  exact ⟨rfl, rfl, rfl, rfl⟩

/-- A text as long as the longest message. -/
def longText : Bytes :=
  List.replicate maxMessageLength 0x78

/-- The limits of the two framings differ by a header, and at the end of a text by the padding. -/
theorem decode_solitary_longText :
    decode (encode .path 0 0 longText) = .error (.tooLong 8986) ∧
    decode (ofRecord .path longText) = .ok [⟨⟨8970, .path, 0, 0, 0⟩, longText⟩] ∧
    ∃ m m', decode (encode .path 0 0 (Utf8.encode "item=0")) = .ok [m] ∧
      decode (ofRecord .path (Utf8.encode "item=0")) = .ok [m'] ∧ m.text = m'.text := by
  have hlength : longText.length = 8970 := List.length_replicate
  have hrecord : MessageType.path.isRecord := by decide
  obtain ⟨hwhole, halone, -⟩ := decode_solitary .path 0 0 longText
  simp only [hlength] at hwhole halone
  refine ⟨hwhole (by decide), halone hrecord (by decide), ?_⟩
  obtain ⟨hwhole, halone, halike⟩ := decode_solitary .path 0 0 (Utf8.encode "item=0")
  have hsize : messageHeaderSize + (Utf8.encode "item=0").length < UInt32.size := by decide +kernel
  have hread := hwhole hsize
  have hread' := halone hrecord (by decide +kernel)
  exact ⟨_, _, hread, hread', (halike hrecord hsize _ _ hread hread').2.1⟩

end LinuxAudit.Datagram
