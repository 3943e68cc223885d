import Mathlib
import LinuxAudit.Channel.Script
import LinuxAudit.Proofs.Channel.Operation
import LinuxAudit.Proofs.Netlink.Framing

/-! What the bytes of a datagram are read as. `decode_accounts` says that no byte of a datagram is
skipped or read twice, and that no message is reported of one that has a fault.
`declaresPayload_of_decode` says when a record is taken to declare its payload alone: if its payload,
so counted, ends the datagram, wherever in the datagram the record starts. -/

namespace LinuxAudit.Datagram

/-! ### Frames and their places -/

theorem Framed.bytes_ne_nil (f : Framed) : f.bytes ≠ [] := by
  apply List.length_pos_iff.1
  rw [f.length_bytes, declared, messageHeaderSize]
  omega

theorem laidOut_eq_nil_iff {frames : List Framed} : laidOut frames = [] ↔ frames = [] := by
  cases frames with
  | nil => simp [laidOut]
  | cons f frames => simp [laidOut, f.bytes_ne_nil]

theorem laidOut_append (front behind : List Framed) :
    laidOut (front ++ behind) = laidOut front ++ laidOut behind :=
  List.flatMap_append

theorem laidOut_cons (f : Framed) (frames : List Framed) :
    laidOut (f :: frames) = f.bytes ++ laidOut frames := rfl

section

variable {f : Framed} {rest : Bytes}

/-- The header of a message declares all of it, or the payload alone of a record that ends the
datagram. -/
theorem Framed.Leads.declares (h : f.Leads rest) :
    f.message.header.length.toNat = declared f.message.payload ∨
      f.message.header.length.toNat = f.message.payload.length ∧
        f.message.header.type.isRecord ∧ rest = [] ∧ f.padding = [] := by
  have hextent := h.extent
  rw [LinuxAudit.Datagram.extent] at hextent
  split at hextent
  · rename_i hrecord
    obtain ⟨htype, hall⟩ := hrecord
    rw [List.length_append, f.length_bytes] at hall
    rw [declared] at hall hextent
    have hrest : rest.length = 0 := by omega
    have hpadding : f.padding.length = 0 := by omega
    right
    exact ⟨by omega, htype, List.length_eq_zero_iff.1 hrest, List.length_eq_zero_iff.1 hpadding⟩
  · left
    exact hextent

theorem Framed.Leads.padding_lt (h : f.Leads rest) : f.padding.length < 4 := by
  have hpadded := h.padded
  rw [f.length_bytes, aligned] at hpadded
  omega

theorem Framed.Leads.length_bytes_eq (h : f.Leads rest) (hrest : rest ≠ []) :
    f.bytes.length = aligned (declared f.message.payload) := by
  have hpadded := h.padded
  have hmore := List.length_pos_iff.2 hrest
  rw [List.length_append] at hpadded
  omega

end

/-- The bytes that messages take up with their padding if another one follows. -/
def span : List Message → Nat
  | [] => 0
  | m :: ms => aligned (declared m.payload) + span ms

theorem four_dvd_span (ms : List Message) : 4 ∣ span ms := by
  induction ms with
  | nil => exact Nat.dvd_zero 4
  | cons m ms ih =>
      rw [span, aligned]
      omega

theorem Sound.length_front {front behind : List Framed} (h : Sound (front ++ behind))
    (hbehind : behind ≠ []) : (laidOut front).length = span (front.map Framed.message) := by
  induction front with
  | nil => rfl
  | cons f front ih =>
      cases h with
      | cons hleads hsound =>
          have hmore : laidOut (front ++ behind) ≠ [] := by
            rw [Ne, laidOut_eq_nil_iff]
            exact List.append_ne_nil_of_right_ne_nil front hbehind
          rw [laidOut_cons, List.length_append, hleads.length_bytes_eq hmore, ih hsound]
          rfl

/-! ### Every byte -/

/-- What holds of a frame between others in a datagram that was read. -/
structure Framed.Accounted (f : Framed) (front behind : List Framed) : Prop where
  padding : f.padding.length < 4
  boundary : behind ≠ [] → 4 ∣ (laidOut (front ++ [f])).length
  length : f.message.header.length.toNat = messageHeaderSize + f.message.payload.length ∨
    f.message.header.length.toNat = f.message.payload.length ∧
      f.message.header.type.isRecord ∧ behind = [] ∧ f.padding = []
  limit : f.message.header.length.toNat ≤ maxMessageLength
  code : f.message.header.type = .error →
    4 ≤ f.message.payload.length ∧ f.message.errorCode?.isSome

theorem Sound.accounted {front behind : List Framed} {f : Framed}
    (h : Sound (front ++ f :: behind)) : f.Accounted front behind := by
  have hleads := h.leads
  refine ⟨hleads.padding_lt, ?_, ?_, hleads.limit, ?_⟩
  · intro hbehind
    rw [List.append_cons] at h
    rw [h.length_front hbehind]
    exact four_dvd_span _
  · rcases hleads.declares with hall | ⟨halone, htype, hbehind, hpadding⟩
    · exact .inl hall
    · exact .inr ⟨halone, htype, laidOut_eq_nil_iff.1 hbehind, hpadding⟩
  · intro htype
    exact ⟨hleads.code htype, f.message.errorCode?_isSome htype (hleads.code htype)⟩

section

variable {σ : Type} [Transport σ] {c : Channel σ} {mode : ReceiveMode} {reception : Reception}
  {transport : σ}

/-- A channel with nothing pending reports the fault of the datagram that it receives, and keeps
nothing of the datagram. -/
theorem receiveEvent_of_fault {data : Bytes} {fault : Malformation}
    (hfault : decode data = .error fault) (hpending : c.pending = [])
    (hgoes : ¬(mode = .blocking ∧ c.stopped = true))
    (hreceive : Transport.receive c.transport (if mode = .blocking then .poll else .none) =
      (reception, transport))
    (harrival : reception.arrival = .datagram data) (polls : Nat) :
    Ends (Channel.receiveEvent (polls + 1) mode) c fun result c' =>
      result = .error (.malformed fault) ∧ c'.pending = [] := by
  rw [Channel.receiveEvent, ends_bind, Ends, Channel.run_nextMessage_of_idle hpending hgoes,
    Channel.run_receive hreceive]
  simp only [harrival, hfault, true_and]
  exact hpending

end

/-- A datagram that is read is exactly the headers, payloads and paddings of its messages, one after
the other, and one that consists of frames that pass the checks is read. Of a datagram that is not
read the channel reports the fault and no message. -/
theorem decode_accounts (data : Bytes) :
    (∀ frames, Sound frames → data = laidOut frames →
      decode data = .ok (frames.map Framed.message)) ∧
    match decode data with
    | .ok messages => ∃ frames : List Framed,
        messages = frames.map Framed.message ∧
        data = frames.flatMap (fun f =>
          f.message.header.encode ++ f.message.payload ++ f.padding) ∧
        ∀ front f behind, frames = front ++ f :: behind → f.Accounted front behind
    | .error fault => ∀ {σ : Type} [Transport σ] (c : Channel σ) (mode : ReceiveMode) (polls : Nat)
        (reception : Reception) (transport : σ),
        c.pending = [] → ¬(mode = .blocking ∧ c.stopped = true) →
        Transport.receive c.transport (if mode = .blocking then .poll else .none) =
          (reception, transport) →
        reception.arrival = .datagram data →
        Ends (Channel.receiveEvent (polls + 1) mode) c fun result c' =>
          result = .error (.malformed fault) ∧ c'.pending = [] := by
  refine ⟨fun frames hsound hdata => decode_eq_ok_iff.2 ⟨frames, hsound, hdata, rfl⟩, ?_⟩
  cases hdecode : decode data with
  | ok messages =>
      obtain ⟨frames, hsound, hdata, hmessages⟩ := decode_eq_ok_iff.1 hdecode
      refine ⟨frames, hmessages, hdata, ?_⟩
      rintro front f behind rfl
      exact hsound.accounted
  | error fault =>
      intro σ _ c mode polls reception transport hpending hgoes hreceive harrival
      exact receiveEvent_of_fault hdecode hpending hgoes hreceive harrival polls

/-- An acknowledgement, a record with padding behind it, and a record that declares its payload
alone. -/
def framedItem : List Framed := [
  ⟨request .error 0 1 [0, 0, 0, 0], []⟩,
  ⟨request .path 0 0 (Utf8.encode "item=0"), [0, 0]⟩,
  ⟨⟨{ length := 3, type := .syscall }, [0x61, 0x62, 0x63]⟩, []⟩]

theorem sound_framedItem : Sound framedItem := by
  refine .cons ?_ (.cons ?_ (.cons ?_ .nil))
  all_goals exact ⟨by decide +kernel, by decide, by decide, by decide +kernel⟩

/-- Without its last byte the datagram does not end with the last record, which then declares too
little for a header. -/
def clippedItem : Channel Script where
  transport := { items := [.datagram (laidOut framedItem).dropLast] }

theorem decode_accounts_framedItem :
    Sound framedItem ∧ decode (laidOut framedItem) = .ok (framedItem.map Framed.message) ∧
    (∃ frames : List Framed, frames.map Framed.message = framedItem.map Framed.message ∧
      laidOut frames = laidOut framedItem ∧
      ∀ front f behind, frames = front ++ f :: behind → f.Accounted front behind) ∧
    Ends (Channel.receiveEvent 1 .nonBlocking) clippedItem fun result c' =>
      result = .error (.malformed (.belowHeader 3)) ∧ c'.pending = [] := by
  obtain ⟨hread, haccounts⟩ := decode_accounts (laidOut framedItem)
  have hdecode := hread framedItem sound_framedItem rfl
  have hfault : decode (laidOut framedItem).dropLast = .error (.belowHeader 3) := by decide +kernel
  have hreports := (decode_accounts (laidOut framedItem).dropLast).2
  rw [hdecode] at haccounts
  rw [hfault] at hreports
  obtain ⟨frames, hmessages, hdata, haccounted⟩ := haccounts
  refine ⟨sound_framedItem, hdecode, ⟨frames, hmessages.symm, hdata.symm, haccounted⟩, ?_⟩
  exact hreports clippedItem .nonBlocking 0 _ _ rfl (by decide) rfl (by decide +kernel)

/-! ### Payloads declared alone -/

/-- The header of a message counts its payload alone. -/
def DeclaresPayload (m : Message) : Prop :=
  m.payload.length = m.header.length.toNat

instance (m : Message) : Decidable (DeclaresPayload m) :=
  inferInstanceAs (Decidable (m.payload.length = m.header.length.toNat))

theorem Framed.Leads.of_declaresPayload {f : Framed} {rest : Bytes} (h : f.Leads rest)
    (halone : DeclaresPayload f.message) :
    f.message.header.type.isRecord ∧ rest = [] ∧ f.padding = [] := by
  rcases h.declares with hall | ⟨-, hends⟩
  · rw [DeclaresPayload] at halone
    rw [declared, messageHeaderSize] at hall
    omega
  · exact hends

theorem Framed.Leads.declaresPayload_iff {f : Framed} {rest : Bytes} (h : f.Leads rest) :
    DeclaresPayload f.message ↔ f.message.header.type.isRecord ∧
      f.message.header.length.toNat + messageHeaderSize = (f.bytes ++ rest).length := by
  constructor
  · intro halone
    obtain ⟨htype, rfl, hpadding⟩ := h.of_declaresPayload halone
    refine ⟨htype, ?_⟩
    rw [List.append_nil, f.length_bytes, hpadding, ← halone, declared, Nat.add_comm]
    rfl
  · intro hrecord
    have hextent := h.extent
    rw [LinuxAudit.Datagram.extent, if_pos hrecord, declared, Nat.add_comm] at hextent
    exact (Nat.add_left_cancel hextent).symm

theorem span_eq_zero_iff {ms : List Message} : span ms = 0 ↔ ms = [] := by
  cases ms with
  | nil => simp [span]
  | cons m ms =>
      simp only [span, aligned, declared, messageHeaderSize, reduceCtorEq, iff_false]
      omega

/-- A message of a datagram declares its payload alone exactly if it is a record and its payload, so
counted, ends the datagram, whatever stands in front of it. It is the last message then, and the only
one exactly if its declared length and a header are as long as the datagram. -/
theorem declaresPayload_of_decode {data : Bytes} {messages : List Message}
    (h : decode data = .ok messages) (front : List Message) (m : Message) (behind : List Message)
    (hsplit : messages = front ++ m :: behind) :
    (DeclaresPayload m ↔ m.header.type.isRecord ∧
      span front + (m.header.length.toNat + messageHeaderSize) = data.length) ∧
    (DeclaresPayload m → behind = [] ∧
      (messages = [m] ↔ m.header.length.toNat + messageHeaderSize = data.length)) := by
  obtain ⟨frames, hsound, rfl, hmessages⟩ := decode_eq_ok_iff.1 h
  obtain ⟨before, rest, rfl, rfl, hrest⟩ := List.map_eq_append_iff.1 (hmessages.symm.trans hsplit)
  obtain ⟨f, after, rfl, rfl, rfl⟩ := List.map_eq_cons_iff.1 hrest
  have hlength : (laidOut (before ++ f :: after)).length =
      span (before.map Framed.message) + (f.bytes ++ laidOut after).length := by
    rw [laidOut_append, List.length_append, hsound.length_front (List.cons_ne_nil f after)]
    rfl
  have hiff : DeclaresPayload f.message ↔ f.message.header.type.isRecord ∧
      span (before.map Framed.message) + (f.message.header.length.toNat + messageHeaderSize) =
        (laidOut (before ++ f :: after)).length := by
    rw [hsound.leads.declaresPayload_iff, hlength, Nat.add_left_cancel_iff]
  refine ⟨hiff, ?_⟩
  intro halone
  have hafter : after = [] :=
    laidOut_eq_nil_iff.1 (hsound.leads.of_declaresPayload halone).2.1
  have hends := (hiff.1 halone).2
  refine ⟨by rw [hafter, List.map_nil], ?_⟩
  calc messages = [f.message]
      ↔ before.map Framed.message = [] := by
        rw [hsplit, hafter, List.map_nil, List.append_eq_singleton_iff]
        simp
    _ ↔ span (before.map Framed.message) = 0 := span_eq_zero_iff.symm
    _ ↔ f.message.header.length.toNat + messageHeaderSize =
          (laidOut (before ++ f :: after)).length := by omega

/-- An acknowledgement, a record whose payload needs no padding, and the end marker of its event.
Each declares its header as well. -/
def answeredItem : Bytes :=
  encode .error 0 1 [0, 0, 0, 0] ++
    (encode .path 0 0 (Utf8.encode "item") ++ encode .endOfEvent 0 0 [])

/-- The record with the end marker as a part of its payload. -/
def overlongItem : Message where
  header := { length := 20, type := .path }
  payload := Utf8.encode "item" ++ encode .endOfEvent 0 0 []

theorem decode_answeredItem :
    decode answeredItem = .ok [request .error 0 1 [0, 0, 0, 0], overlongItem] := by
  decide +kernel

theorem declaresPayload_of_decode_answeredItem :
    decode answeredItem = .ok [request .error 0 1 [0, 0, 0, 0], overlongItem] ∧
    DeclaresPayload overlongItem ∧
    overlongItem.header.length.toNat + messageHeaderSize ≠ answeredItem.length := by
  obtain ⟨hiff, hends⟩ := declaresPayload_of_decode decode_answeredItem
    [request .error 0 1 [0, 0, 0, 0]] overlongItem [] rfl
  have halone : DeclaresPayload overlongItem := hiff.2 ⟨by decide, by decide +kernel⟩
  refine ⟨decode_answeredItem, halone, fun hlength => ?_⟩
  exact absurd ((hends halone).2.2 hlength) (by decide +kernel)

/-- A record in a datagram with other messages can be read as if it were alone. -/
theorem not_only_whole_datagrams :
    ¬∀ (data : Bytes) (messages : List Message), decode data = .ok messages →
      ∀ m ∈ messages, DeclaresPayload m → m.header.type.isRecord ∧
        m.header.length.toNat + messageHeaderSize = data.length ∧ messages = [m] := by
  intro h
  have hrecord := h answeredItem _ decode_answeredItem overlongItem
    (List.mem_cons_of_mem _ List.mem_cons_self) (by decide +kernel)
  exact absurd hrecord.2.1 (by decide +kernel)

end LinuxAudit.Datagram
