import Mathlib
import LinuxAudit.Netlink.Datagram
import LinuxAudit.Proofs.Outcome

/-! How a datagram is divided into messages. Each message stands in a frame, which is its header, its
payload, and the padding behind it. `first_eq_ok_iff` says exactly what frame is taken off the front
of a datagram, and `decode_eq_ok_iff` that a datagram is read exactly if it consists of frames, with
no byte between them and none left over. -/

namespace LinuxAudit

namespace Header

/-- The bytes of a header are read back, and reading goes on behind them. -/
theorem decode?_encode_append (header : Header) (rest : Bytes) :
    decode? (header.encode ++ rest) = some (header, rest) := by
  simp only [encode, Bytes.ofWord, Bytes.ofHalf, List.cons_append, List.nil_append, decode?,
    Bytes.word_ofWord, Bytes.half_ofHalf]

theorem decode?_eq_some_iff {data rest : Bytes} {header : Header} :
    decode? data = some (header, rest) ↔ data = header.encode ++ rest := by
  constructor
  · intro h
    unfold decode? at h
    split at h
    · obtain ⟨rfl, rfl⟩ := Prod.mk.inj (Option.some.inj h)
      simp only [encode, Bytes.ofWord_word, Bytes.ofHalf_half, List.cons_append, List.nil_append]
    · cases h
  · rintro rfl
    exact decode?_encode_append header rest

theorem length_encode (header : Header) : header.encode.length = messageHeaderSize := by
  simp only [encode, List.length_append, Bytes.ofWord_length]
  rfl

end Header

theorem Message.errorCode?_isSome (message : Message) (htype : message.header.type = .error)
    (hlength : 4 ≤ message.payload.length) : message.errorCode?.isSome := by
  rw [errorCode?, if_pos htype]
  match message.payload, hlength with
  | a :: b :: c :: d :: rest, _ => rfl

namespace Datagram

theorem le_aligned (length : Nat) : length ≤ aligned length := by
  rw [aligned]
  omega

theorem aligned_lt (length : Nat) : aligned length < length + 4 := by
  rw [aligned]
  omega

/-- The bytes that a message with a payload of some length declares. -/
def declared (payload : Bytes) : Nat :=
  messageHeaderSize + payload.length

/-- A message in its frame: the padding follows it. -/
structure Framed where
  message : Message
  padding : Bytes

def Framed.bytes (f : Framed) : Bytes :=
  f.message.header.encode ++ f.message.payload ++ f.padding

/-- What is checked of the first message of a datagram that goes on with `rest`. It declares its
size in one of the two ways, is no longer than the longest message, and has a number if it is an
error reply; the padding goes on to the next multiple of four, as far as there are bytes. -/
structure Framed.Leads (f : Framed) (rest : Bytes) : Prop where
  extent : extent f.message.header (f.bytes ++ rest).length = declared f.message.payload
  limit : f.message.header.length.toNat ≤ maxMessageLength
  code : f.message.header.type = .error → 4 ≤ f.message.payload.length
  padded : f.bytes.length =
    min (aligned (declared f.message.payload)) (f.bytes ++ rest).length

theorem Framed.length_bytes (f : Framed) :
    f.bytes.length = declared f.message.payload + f.padding.length := by
  rw [bytes, List.length_append, List.length_append, Header.length_encode, declared]

/-! ### The first frame -/

/-- The frame of a message that takes up so many bytes, of which the header comes first. -/
def cut (header : Header) (behind : Bytes) (length : Nat) : Framed where
  message := ⟨header, behind.take (length - messageHeaderSize)⟩
  padding := (behind.drop (length - messageHeaderSize)).take (aligned length - length)

section

variable {header : Header} {behind : Bytes} {length : Nat}
  (hheader : messageHeaderSize ≤ length) (hlength : length ≤ (header.encode ++ behind).length)

include hheader hlength in
theorem declared_cut : declared (cut header behind length).message.payload = length := by
  rw [List.length_append, Header.length_encode] at hlength
  show messageHeaderSize + (behind.take (length - messageHeaderSize)).length = length
  rw [List.length_take]
  omega

include hheader in
/-- Behind the frame stands what the next message is read from. -/
theorem cut_append : (cut header behind length).bytes ++
    (header.encode ++ behind).drop (aligned length) = header.encode ++ behind := by
  have hle := le_aligned length
  have hrest : (header.encode ++ behind).drop (aligned length) =
      (behind.drop (length - messageHeaderSize)).drop (aligned length - length) := by
    rw [List.drop_append, Header.length_encode, List.drop_drop, List.drop_eq_nil_of_le,
      List.nil_append]
    · congr 1
      omega
    · rw [Header.length_encode]
      omega
  rw [hrest, Framed.bytes]
  simp only [cut, List.append_assoc, List.take_append_drop]

include hheader hlength in
theorem length_cut : (cut header behind length).bytes.length =
    min (aligned length) (header.encode ++ behind).length := by
  have hle := le_aligned length
  rw [Framed.length_bytes, declared_cut hheader hlength]
  rw [List.length_append, Header.length_encode] at hlength ⊢
  simp only [cut, List.length_take, List.length_drop]
  omega

end

/-- What follows a frame starts at a multiple of four, so that nothing is skipped. -/
theorem Framed.Leads.drop {f : Framed} {rest : Bytes} (h : f.Leads rest) :
    (f.bytes ++ rest).drop (aligned (declared f.message.payload)) = rest := by
  have hpadded := h.padded
  rw [List.length_append] at hpadded
  by_cases hrest : rest = []
  · rw [hrest, List.append_nil]
    apply List.drop_eq_nil_of_le
    omega
  · have hmore := List.length_pos_iff.2 hrest
    apply List.drop_left'
    omega

/-- A message is taken off the front of a datagram exactly if its frame stands there and passes the
checks; reading goes on behind the frame. -/
theorem first_eq_ok_iff {data rest : Bytes} {message : Message} :
    first data = .ok (message, rest) ↔ ∃ padding,
      data = Framed.bytes ⟨message, padding⟩ ++ rest ∧ Framed.Leads ⟨message, padding⟩ rest := by
  constructor
  · intro h
    rw [first] at h
    cases hdata : Header.decode? data with
    | none =>
        rw [hdata] at h
        cases h
    | some result =>
        obtain ⟨header, behind⟩ := result
        obtain rfl := Header.decode?_eq_some_iff.1 hdata
        simp only [hdata, except_guard_eq_ok_iff] at h
        obtain ⟨hlimit, hheader, hlength, hcode, h⟩ := h
        obtain ⟨rfl, rfl⟩ := Prod.mk.inj (Except.ok.inj h)
        rw [Nat.not_lt] at hheader hlength
        have hcut : (cut header behind _).bytes ++ _ = header.encode ++ behind := cut_append hheader
        refine ⟨(cut header behind _).padding, hcut.symm, ?_, Nat.le_of_not_lt hlimit, ?_, ?_⟩
        · show extent header ((cut header behind _).bytes ++ _).length =
            declared (cut header behind _).message.payload
          rw [hcut, declared_cut hheader hlength]
        · intro htype
          by_contra hfew
          exact hcode ⟨htype, Nat.lt_of_not_le hfew⟩
        · show (cut header behind _).bytes.length =
            min (aligned (declared (cut header behind _).message.payload))
              ((cut header behind _).bytes ++ _).length
          rw [hcut, declared_cut hheader hlength, length_cut hheader hlength]
  · rintro ⟨padding, rfl, hleads⟩
    have hdata : Header.decode? (Framed.bytes ⟨message, padding⟩ ++ rest) =
        some (message.header, message.payload ++ (padding ++ rest)) := by
      rw [Header.decode?_eq_some_iff, Framed.bytes]
      simp only [List.append_assoc]
    have hextent : extent message.header (Framed.bytes ⟨message, padding⟩ ++ rest).length =
        declared message.payload := hleads.extent
    have hlength : (Framed.bytes ⟨message, padding⟩).length =
        declared message.payload + padding.length := Framed.length_bytes _
    have hpayload : (message.payload ++ (padding ++ rest)).take
        (declared message.payload - messageHeaderSize) = message.payload := by
      apply List.take_left'
      rw [declared, Nat.add_sub_cancel_left]
    have hrest : (Framed.bytes ⟨message, padding⟩ ++ rest).drop
        (aligned (declared message.payload)) = rest := hleads.drop
    rw [first, hdata]
    simp only [hextent, except_guard_eq_ok_iff, hpayload, hrest]
    refine ⟨Nat.not_lt.2 hleads.limit, ?_, ?_, ?_, trivial⟩
    · rw [declared]
      omega
    · rw [List.length_append, hlength]
      omega
    · rintro ⟨htype, hfew⟩
      exact absurd (hleads.code htype) (Nat.not_le.2 hfew)

/-! ### All frames -/

theorem decode_of_first {data rest : Bytes} {message : Message}
    (h : first data = .ok (message, rest)) :
    decode data = (decode rest).map (message :: ·) := by
  have hdata : ¬data.isEmpty := by
    intro hempty
    rw [List.isEmpty_iff.1 hempty] at h
    cases h
  rw [decode, if_neg hdata]
  split
  · rename_i e he
    rw [h] at he
    cases he
  · rename_i m r hm
    rw [h] at hm
    cases hm
    rfl

@[simp] theorem decode_nil : decode [] = .ok [] := by
  rw [decode]
  rfl

theorem decode_of_first_error {data : Bytes} {fault : Malformation} (hdata : data ≠ [])
    (h : first data = .error fault) : decode data = .error fault := by
  rw [decode, if_neg (mt List.isEmpty_iff.1 hdata)]
  split
  · rename_i e he
    rw [h] at he
    exact congrArg _ (Except.error.inj he).symm
  · rename_i m r hm
    rw [h] at hm
    cases hm

/-- The bytes of frames one after the other. -/
def laidOut (frames : List Framed) : Bytes :=
  frames.flatMap Framed.bytes

/-- Every frame passes the checks, with the frames behind it as the rest. -/
inductive Sound : List Framed → Prop
  | nil : Sound []
  | cons {f : Framed} {frames : List Framed} :
      f.Leads (laidOut frames) → Sound frames → Sound (f :: frames)

/-- A frame in the middle has the frames behind it as the rest. -/
theorem Sound.leads {front behind : List Framed} {f : Framed} (h : Sound (front ++ f :: behind)) :
    f.Leads (laidOut behind) := by
  induction front with
  | nil =>
      cases h with
      | cons hleads hsound => exact hleads
  | cons g front ih =>
      cases h with
      | cons hleads hsound => exact ih hsound

/-- A datagram is read as some messages exactly if it consists of their frames. -/
theorem decode_eq_ok_iff {data : Bytes} {messages : List Message} :
    decode data = .ok messages ↔
      ∃ frames, Sound frames ∧ data = laidOut frames ∧ messages = frames.map Framed.message := by
  constructor
  · intro h
    induction data using decode.induct generalizing messages with
    | case1 data hempty =>
        obtain rfl := List.isEmpty_iff.1 hempty
        rw [decode_nil] at h
        exact ⟨[], .nil, rfl, (Except.ok.inj h).symm⟩
    | case2 data hempty fault hfault =>
        rw [decode_of_first_error (mt List.isEmpty_iff.2 hempty) hfault] at h
        cases h
    | case3 data hempty message rest hfirst hlt ih =>
        rw [decode_of_first hfirst] at h
        obtain ⟨padding, rfl, hleads⟩ := first_eq_ok_iff.1 hfirst
        cases hrest : decode rest with
        | error fault =>
            rw [hrest] at h
            cases h
        | ok more =>
            rw [hrest] at h
            obtain ⟨frames, hsound, rfl, rfl⟩ := ih hrest
            exact ⟨⟨message, padding⟩ :: frames, .cons hleads hsound, rfl, (Except.ok.inj h).symm⟩
  · rintro ⟨frames, hsound, rfl, rfl⟩
    induction hsound with
    | nil => exact decode_nil
    | @cons f frames hleads hsound ih =>
        have hfirst : first (laidOut (f :: frames)) = .ok (f.message, laidOut frames) :=
          first_eq_ok_iff.2 ⟨f.padding, rfl, hleads⟩
        rw [decode_of_first hfirst, ih]
        rfl

end Datagram

end LinuxAudit
