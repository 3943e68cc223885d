import Mathlib
import LinuxAudit.Proofs.Netlink.Framing

/-! Several messages in one datagram. A record is read with its payload alone declared if that would
end the datagram, so two messages can look like one record. `decode_encodeAll` says that messages
are told apart unless the last two look like that, and what a datagram of two such messages is read
as. -/

namespace LinuxAudit.Datagram

/-- What a message is written from. -/
structure Outgoing where
  type : MessageType
  flags : UInt16 := 0
  sequence : UInt32 := 0
  payload : Bytes := []
deriving DecidableEq

namespace Outgoing

def encode (m : Outgoing) : Bytes :=
  Datagram.encode m.type m.flags m.sequence m.payload

/-- The message that it is to be read as. -/
def message (m : Outgoing) : Message :=
  request m.type m.flags m.sequence m.payload

/-- It is not longer than the longest message, and an error reply has a number. -/
structure Fits (m : Outgoing) : Prop where
  length : declared m.payload ≤ maxMessageLength
  code : m.type = .error → 4 ≤ m.payload.length

/-- A record whose payload needs no padding, and a message without a payload behind it. The header
of that message is as long as what the declared length of a record alone leaves out. -/
structure LooksAlone (record last : Outgoing) : Prop where
  isRecord : record.type.isRecord
  unpadded : 4 ∣ record.payload.length
  empty : last.payload = []

instance (m : Outgoing) : Decidable m.Fits :=
  decidable_of_iff
    (declared m.payload ≤ maxMessageLength ∧ (m.type = .error → 4 ≤ m.payload.length))
    ⟨fun h => ⟨h.1, h.2⟩, fun h => ⟨h.length, h.code⟩⟩

theorem length_encode (m : Outgoing) : m.encode.length = aligned (declared m.payload) :=
  Datagram.length_encode ..

end Outgoing

/-- Messages one after the other. -/
def encodeAll (ms : List Outgoing) : Bytes :=
  ms.flatMap Outgoing.encode

/-- The last two messages look like one record. -/
def EndsAmbiguous (ms : List Outgoing) : Prop :=
  ∃ front record last, ms = front ++ [record, last] ∧ record.LooksAlone last

theorem encodeAll_nil : encodeAll [] = [] := rfl

theorem encodeAll_cons (m : Outgoing) (ms : List Outgoing) :
    encodeAll (m :: ms) = m.encode ++ encodeAll ms := rfl

theorem EndsAmbiguous.cons {ms : List Outgoing} (h : EndsAmbiguous ms) (m : Outgoing) :
    EndsAmbiguous (m :: ms) := by
  obtain ⟨front, record, last, rfl, halone⟩ := h
  exact ⟨m :: front, record, last, rfl, halone⟩

theorem Outgoing.le_length_encode (m : Outgoing) :
    messageHeaderSize + m.payload.length ≤ m.encode.length :=
  (le_aligned (declared m.payload)).trans_eq m.length_encode.symm

/-- Only a single message without a payload is no longer than a header. -/
theorem eq_singleton_of_length_le {ms : List Outgoing} (hpos : 0 < (encodeAll ms).length)
    (h : (encodeAll ms).length ≤ messageHeaderSize) : ∃ last, ms = [last] ∧ last.payload = [] := by
  match ms with
  | [] => exact absurd hpos (Nat.lt_irrefl 0)
  | [last] =>
      have hlast := last.le_length_encode
      rw [encodeAll_cons, List.length_append] at h
      exact ⟨last, rfl, List.length_eq_zero_iff.1 (by omega)⟩
  | m :: m' :: ms =>
      have hm := m.le_length_encode
      have hm' := m'.le_length_encode
      rw [encodeAll_cons, encodeAll_cons, List.length_append, List.length_append] at h
      rw [messageHeaderSize] at *
      omega

/-- A record is only taken as one with its payload alone declared if it is the last but one of its
datagram. -/
theorem endsAmbiguous_of_extent {record : Outgoing} {ms : List Outgoing}
    (hrecord : record.type.isRecord)
    (h : declared record.payload + messageHeaderSize =
      aligned (declared record.payload) + (encodeAll ms).length) :
    EndsAmbiguous (record :: ms) := by
  have hpadding := le_aligned (declared record.payload)
  have hshort := aligned_lt (declared record.payload)
  obtain ⟨last, rfl, hempty⟩ : ∃ last, ms = [last] ∧ last.payload = [] := by
    refine eq_singleton_of_length_le ?_ ?_
    · rw [messageHeaderSize] at h
      omega
    · omega
  have hlast : (encodeAll [last]).length = messageHeaderSize := by
    rw [encodeAll_cons, List.length_append, last.length_encode, hempty]
    rfl
  refine ⟨[], record, last, rfl, hrecord, ?_, hempty⟩
  rw [hlast, aligned, declared, messageHeaderSize] at h
  omega

/-- Messages that do not end like one record are all read back. -/
theorem decode_encodeAll_of_not_endsAmbiguous {ms : List Outgoing} (hfits : ∀ m ∈ ms, m.Fits)
    (hends : ¬EndsAmbiguous ms) : decode (encodeAll ms) = .ok (ms.map Outgoing.message) := by
  induction ms with
  | nil => exact decode_nil
  | cons m ms ih =>
      have hm := hfits m List.mem_cons_self
      have hextent : m.type.isRecord → declared m.payload + messageHeaderSize ≠
          aligned (declared m.payload) + (encodeAll ms).length :=
        fun hrecord h => hends (endsAmbiguous_of_extent hrecord h)
      rw [encodeAll_cons, Outgoing.encode, decode_encode_append hm.length hm.code hextent,
        ih (fun m' hm' => hfits m' (List.mem_cons_of_mem m hm')) fun h => hends (h.cons m)]
      rfl

/-- A record and a message that together look like one record are read as one. -/
theorem decode_of_looksAlone {record last : Outgoing} (hfits : record.Fits)
    (halone : record.LooksAlone last) : decode (encodeAll [record, last]) =
      .ok [⟨record.message.header, record.payload ++ last.encode⟩] := by
  have hdeclared := toNat_declared hfits.length
  have hlast : last.encode.length = messageHeaderSize := by
    rw [last.length_encode, halone.empty]
    rfl
  have hunpadded : aligned (declared record.payload) = declared record.payload := by
    have hdvd := halone.unpadded
    rw [aligned, declared, messageHeaderSize]
    omega
  have hsplit : encodeAll [record, last] =
      record.message.header.encode ++ (record.payload ++ last.encode) := by
    rw [encodeAll_cons, encodeAll_cons, encodeAll_nil, Outgoing.encode, Datagram.encode, ← declared,
      hunpadded, Nat.sub_self, List.replicate_zero, List.append_nil, List.append_nil,
      List.append_assoc]
    rfl
  have hlength : record.message.header.length.toNat =
      (record.payload ++ last.encode).length := by
    rw [List.length_append, hlast, Nat.add_comm]
    exact hdeclared
  rw [hsplit]
  refine decode_record halone.isRecord hlength ?_
  rw [← hlength]
  exact hdeclared.trans_le hfits.length

/-- Messages of one datagram are read back one by one, in order, with what they were written from
and the length of header and payload declared, unless the last two look like one record. If there
are no others, these two are read as that record. -/
theorem decode_encodeAll :
    (∀ ms : List Outgoing, (∀ m ∈ ms, m.Fits) → ¬EndsAmbiguous ms →
      decode (encodeAll ms) = .ok (ms.map Outgoing.message) ∧
      ∀ m ∈ ms, m.message.header.length.toNat = messageHeaderSize + m.payload.length) ∧
    (∀ record last : Outgoing, record.Fits → record.LooksAlone last →
      decode (encodeAll [record, last]) =
        .ok [⟨record.message.header, record.payload ++ last.encode⟩]) := by
  refine ⟨?_, ?_⟩
  · intro ms hfits hends
    refine ⟨decode_encodeAll_of_not_endsAmbiguous hfits hends, ?_⟩
    intro m hm
    exact toNat_declared (hfits m hm).length
  · intro record last hfits halone
    exact decode_of_looksAlone hfits halone

/-- A record whose payload needs no padding, and the end marker of its event. -/
def itemAndEnd : List Outgoing :=
  [{ type := .path, payload := Utf8.encode "item" }, { type := .endOfEvent }]

/-- Not all messages are read back. -/
theorem not_always_read_back :
    ¬∀ ms : List Outgoing, (∀ m ∈ ms, m.Fits) →
      decode (encodeAll ms) = .ok (ms.map Outgoing.message) := by
  intro h
  exact absurd (h itemAndEnd (by decide)) (by decide +kernel)

/-- An acknowledgement, a record that needs padding, and the end marker of its event. -/
def itemAnswered : List Outgoing :=
  [{ type := .error, sequence := 1, payload := [0, 0, 0, 0] },
    { type := .path, payload := Utf8.encode "item=0" }, { type := .endOfEvent }]

theorem decode_encodeAll_item :
    (∀ m ∈ itemAnswered, m.Fits) ∧ ¬EndsAmbiguous itemAnswered ∧
    decode (encodeAll itemAnswered) = .ok (itemAnswered.map Outgoing.message) ∧
    decode (encodeAll itemAndEnd) = .ok [⟨{ length := 20, type := .path },
      Utf8.encode "item" ++ Datagram.encode .endOfEvent 0 0 []⟩] := by
  have hfits : ∀ m ∈ itemAnswered, m.Fits := by decide
  have hends : ¬EndsAmbiguous itemAnswered := by
    rintro ⟨front, record, last, h, halone⟩
    obtain ⟨-, hlast⟩ := List.append_inj' (show [_] ++ _ = front ++ [record, last] from h) rfl
    obtain ⟨rfl, -⟩ := List.cons.inj hlast
    exact absurd halone.unpadded (by decide)
  refine ⟨hfits, hends, (decode_encodeAll.1 itemAnswered hfits hends).1, ?_⟩
  exact decode_encodeAll.2 { type := .path, payload := Utf8.encode "item" } { type := .endOfEvent }
    (by decide) ⟨by decide, by decide, rfl⟩

end LinuxAudit.Datagram
