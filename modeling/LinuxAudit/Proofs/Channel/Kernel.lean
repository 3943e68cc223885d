import Mathlib
import LinuxAudit.Channel.Kernel
import LinuxAudit.Proofs.Channel.Operation
import LinuxAudit.Proofs.Netlink.Framing
import LinuxAudit.Proofs.Status

/-! Requests to a kernel in memory. Whatever waits in its inbox and carries no number is passed
over, and the answer stands behind it: `request_performed` and `request_refused` say that a request
ends as the kernel decided, and that the channel is as ready as before. -/

namespace LinuxAudit

theorem Status.declared_encode_le (status : Status) :
    Datagram.declared status.encode ≤ maxMessageLength := by
  rw [Datagram.declared, length_encode]
  decide

/-- The first word of an error reply is the number that it was made of. -/
theorem toInt_negated {errno : Nat} (h : errno < 2 ^ 31) :
    -(UInt32.ofNat (UInt32.size - errno)).toInt32.toInt = errno := by
  rw [UInt32.toInt32_ofNat', Int32.toInt_ofNat', Int.bmod_def, UInt32.size, Int32.size]
  omega

namespace Datagram

theorem take_encode {type : MessageType} {flags : UInt16} {sequence : UInt32} {payload : Bytes}
    (hfits : declared payload ≤ maxMessageLength) :
    (encode type flags sequence payload).take receiveBufferSize =
      encode type flags sequence payload := by
  apply List.take_of_length_le
  rw [length_encode, aligned, receiveBufferSize]
  rw [maxMessageLength] at hfits ⊢
  omega

end Datagram

namespace Kernel

/-! ### What waits in the inbox -/

/-- A datagram that answers no request: no message that it is read as carries a number. -/
def Unsolicited (data : Bytes) : Prop :=
  ∀ ms, Datagram.decode (data.take receiveBufferSize) = .ok ms → ∀ m ∈ ms, m.header.sequence = 0

theorem take_buffer (header : Header) (payload : Bytes) :
    (header.encode ++ payload).take receiveBufferSize =
      header.encode ++ payload.take (receiveBufferSize - messageHeaderSize) := by
  rw [List.take_append, header.length_encode, List.take_of_length_le]
  rw [header.length_encode]
  decide

/-- A record is framed such that the declared length counts its payload. -/
theorem unsolicited_ofRecord {type : MessageType} {payload : Bytes} (htype : type.isRecord)
    (hlength : payload.length < UInt32.size) : Unsolicited (Datagram.ofRecord type payload) := by
  intro ms hms
  have hdeclared : (UInt32.ofNat payload.length).toNat = payload.length := by
    rw [UInt32.toNat_ofNat']
    exact Nat.mod_eq_of_lt hlength
  rw [Datagram.ofRecord, take_buffer] at hms
  by_cases hfits : payload.length ≤ maxMessageLength
  · rw [List.take_of_length_le (hfits.trans (by decide)),
      Datagram.decode_record htype hdeclared hfits] at hms
    obtain rfl := Except.ok.inj hms
    exact List.forall_mem_singleton.2 rfl
  · rw [Datagram.decode_tooLong] at hms
    · cases hms
    · rw [hdeclared]
      exact Nat.lt_of_not_le hfits

/-- What comes into an inbox unasked. -/
inductive Push
  | record (type : MessageType) (payload : Bytes)
  | oversized (type : MessageType)

/-- A record has the type of a record, and its length can be declared. Texts of 2^32 bytes and more
are left out, as their length wraps in the header. -/
def Push.Framed : Push → Prop
  | record type payload => type.isRecord ∧ payload.length < UInt32.size
  | oversized _ => True

def push (k : Kernel) : Push → Kernel
  | .record type payload => k.queueRecord type payload
  | .oversized type => k.queueOversized type

theorem push_eq_queue (k : Kernel) {p : Push} (hp : p.Framed) :
    ∃ data, k.push p = k.queue data ∧ Unsolicited data := by
  cases p with
  | record type payload => exact ⟨_, rfl, unsolicited_ofRecord hp.1 hp.2⟩
  | oversized type =>
      refine ⟨_, rfl, fun ms hms => ?_⟩
      have hlength : maxMessageLength <
          (UInt32.ofNat (maxMessageLength + messageHeaderSize)).toNat := by
        decide
      rw [take_buffer, Datagram.decode_tooLong hlength] at hms
      cases hms

/-! ### What becomes of a request -/

/-- The datagram that answers a request with an error number. -/
def answerTo (request : Message) (errno : Nat) : Bytes :=
  Datagram.encode .error 0 request.header.sequence
    (Bytes.ofWord (UInt32.ofNat (UInt32.size - errno)) ++ request.header.encode)

theorem decode_answerTo (request : Message) (errno : Nat) :
    Datagram.decode ((answerTo request errno).take receiveBufferSize) =
      .ok [Datagram.request .error 0 request.header.sequence
        (Bytes.ofWord (UInt32.ofNat (UInt32.size - errno)) ++ request.header.encode)] := by
  have hlength : (Bytes.ofWord (UInt32.ofNat (UInt32.size - errno)) ++
      request.header.encode).length = 20 := by
    rw [List.length_append, Bytes.ofWord_length, Header.length_encode, messageHeaderSize]
  have hfits : Datagram.declared (Bytes.ofWord (UInt32.ofNat (UInt32.size - errno)) ++
      request.header.encode) ≤ maxMessageLength := by
    rw [Datagram.declared, hlength]
    decide
  rw [answerTo, Datagram.take_encode hfits]
  refine Datagram.decode_encode_alone hfits (by decide) fun _ => ?_
  rw [hlength]
  decide

theorem errorCode?_answerTo (request : Message) {errno : Nat} (h : errno < 2 ^ 31) :
    (Datagram.request .error 0 request.header.sequence (Bytes.ofWord
      (UInt32.ofNat (UInt32.size - errno)) ++ request.header.encode)).errorCode? =
        some (errno : Int) := by
  rw [Message.errorCode?, Datagram.request, if_pos rfl]
  simp only [Bytes.ofWord, List.cons_append, Bytes.word_ofWord, toInt_negated h]

/-- What is sent in front of the answer to a request. -/
def replies (k : Kernel) (request : Message) : List Bytes :=
  if request.header.type = .getStatus then
    [Datagram.encode .getStatus 0 request.header.sequence k.status.encode]
  else []

/-- What is sent behind the answer to a request that was carried out. -/
def reports (request : Message) : List Bytes :=
  if request.header.type = .addRule then
    [Datagram.ofRecord .configChange (Utf8.encode ruleAddedRecord)]
  else []

theorem reports_unsolicited (request : Message) : ∀ data ∈ reports request, Unsolicited data := by
  rw [reports]
  split
  · exact List.forall_mem_singleton.2 (unsolicited_ofRecord (by decide) (by decide +kernel))
  · exact List.forall_mem_nil _

section

variable {k : Kernel} {request : Message}

theorem perform_addRule (h : request.header.type = .addRule) :
    k.perform request = k.addRule request.payload := if_pos h

theorem perform_deleteRule (h : request.header.type = .deleteRule) :
    k.perform request = k.deleteRule request.payload := by
  rw [perform, h, if_neg (by decide), if_pos rfl]

theorem perform_setStatus (h : request.header.type = .setStatus) {change : Status}
    (hpayload : request.payload = change.encode) : k.perform request = .ok (k.update change) := by
  rw [perform, h, if_neg (by decide), if_neg (by decide), if_pos rfl, hpayload,
    Status.decode_encode]

theorem perform_getStatus (h : request.header.type = .getStatus) : k.perform request = .ok
    (k.queue (Datagram.encode .getStatus 0 request.header.sequence k.status.encode)) := by
  rw [perform, h, if_neg (by decide), if_neg (by decide), if_neg (by decide), if_pos rfl]

end

/-- Turning auditing on or off leaves the listener alone, and the other way round. -/
theorem update_enabling (k : Kernel) (enabled : Bool) : k.update (.enabling enabled) =
    { k with status := { k.status with enabled := if enabled then 1 else 0 } } := by
  have henabled : Status.setsEnabled &&& Status.setsEnabled ≠ 0 := by decide
  have hfailure : Status.setsEnabled &&& Status.setsFailure = 0 := by decide
  have hpid : Status.setsEnabled &&& Status.setsPid = 0 := by decide
  simp only [update, Status.enabling, henabled, hfailure, hpid, if_true, if_false]

theorem update_listening (k : Kernel) (pid : UInt32) :
    k.update (.listening pid) = { k with status := { k.status with pid } } := by
  have henabled : Status.setsPid &&& Status.setsEnabled = 0 := by decide
  have hfailure : Status.setsPid &&& Status.setsFailure = 0 := by decide
  have hpid : Status.setsPid &&& Status.setsPid ≠ 0 := by decide
  simp only [update, Status.listening, henabled, hfailure, hpid, if_true, if_false]

/-- A request that is carried out changes nothing but rules and status, and may be replied to. -/
theorem perform_frame {k k' : Kernel} {request : Message} (h : k.perform request = .ok k') :
    k' = { k with
      rules := k'.rules, status := k'.status, inbox := k.inbox ++ k.replies request } := by
  rw [perform] at h
  rw [replies]
  split at h
  · rename_i htype
    rw [htype, if_neg (by decide)]
    rw [addRule] at h
    split at h
    · cases h
    · split at h
      · cases h
      · rw [← Except.ok.inj h, List.append_nil]
  split at h
  · rename_i htype
    rw [htype, if_neg (by decide)]
    rw [deleteRule] at h
    split at h
    · cases h
    · split at h
      · rw [← Except.ok.inj h, List.append_nil]
      · cases h
  split at h
  · rename_i htype
    rw [htype, if_neg (by decide)]
    split at h
    · rw [← Except.ok.inj h, List.append_nil]
      rfl
    · cases h
  split at h
  · rename_i htype
    rw [if_pos htype, ← Except.ok.inj h]
    rfl
  · cases h

/-- The error numbers that a request is refused with. -/
theorem perform_error {k : Kernel} {request : Message} {errno : Errno}
    (h : k.perform request = .error errno) :
    errno = .invalidArgument ∨ errno = .alreadyExists ∨ errno = .noEntry := by
  simp only [perform, addRule, deleteRule] at h
  grind

theorem perform_error_code {k : Kernel} {request : Message} {errno : Errno}
    (h : k.perform request = .error errno) : 0 < errno.code ∧ errno.code < 2 ^ 31 := by
  rcases perform_error h with rfl | rfl | rfl
  · decide
  · decide
  · decide

theorem handle_of_ok {k k' : Kernel} {request : Message} (hdenial : k.denial = none)
    (h : k.perform request = .ok k') : k.handle request = { k' with
      inbox := k.inbox ++ (k.replies request ++ answerTo request 0 :: reports request) } := by
  have hinbox := congrArg Kernel.inbox (perform_frame h)
  rw [handle, hdenial]
  simp only [h, reports]
  split
  · simp only [queueRecord, answer, queue, hinbox, answerTo, List.append_assoc]
    rfl
  · simp only [answer, queue, hinbox, answerTo, List.append_assoc]

theorem handle_of_error {k : Kernel} {request : Message} {errno : Errno}
    (hdenial : k.denial = none) (h : k.perform request = .error errno) :
    k.handle request = { k with inbox := k.inbox ++ [answerTo request errno.code] } := by
  simp only [handle, hdenial, h, answer, queue, answerTo]

/-- A kernel that has handled a request keeps it. -/
def after (k : Kernel) (request : Message) : Kernel :=
  { k.handle request with sent := (k.handle request).sent ++ [request] }

/-- A datagram with one request is taken as that request. -/
theorem send_encode {k : Kernel} (hmuted : k.muted = false) {type : MessageType}
    {payload : Bytes} (hfits : Datagram.declared payload ≤ maxMessageLength)
    (htype : ¬type.isRecord) (herror : type ≠ .error) (flags : UInt16) (sequence : UInt32) :
    Transport.send k (Datagram.encode type flags sequence payload) =
      (none, k.after (Datagram.request type flags sequence payload)) := by
  have hsend : Transport.send k (Datagram.encode type flags sequence payload) =
      k.send (Datagram.encode type flags sequence payload) := rfl
  rw [hsend, send, Datagram.decode_encode hfits htype herror]
  simp only [List.foldl_cons, List.foldl_nil, hmuted, Bool.false_eq_true, if_false]
  rfl

end Kernel

namespace Channel

/-! ### Waiting for the answer -/

/-- Sorting leaves alone what carries no number. -/
theorem sift_of_unnumbered {sequence : UInt32} (hsequence : sequence ≠ 0) (reply : Option Message)
    {ms : List Message} (hms : ∀ m ∈ ms, m.header.sequence = 0) :
    (sift sequence reply ms).code = none ∧ (sift sequence reply ms).reply = reply := by
  induction ms with
  | nil => exact ⟨rfl, rfl⟩
  | cons m ms ih =>
      have hm : m.header.sequence ≠ sequence := by
        rw [hms m List.mem_cons_self]
        exact hsequence.symm
      have hrest := ih fun m' hm' => hms m' (List.mem_cons_of_mem m hm')
      simp only [sift, if_neg hm]
      split
      · exact hrest
      · exact hrest

/-- What a channel that has read from the inbox has left of it, and what did not change. -/
structure HasRead (c : Channel Kernel) (inbox : List Bytes) (c' : Channel Kernel) : Prop where
  transport : c'.transport = { c.transport with inbox }
  options : c'.options = c.options

theorem HasRead.trans {c c' c'' : Channel Kernel} {inbox rest : List Bytes}
    (h : HasRead c inbox c') (h' : HasRead c' rest c'') : HasRead c rest c'' where
  transport := by rw [h'.transport, h.transport]
  options := h'.options.trans h.options

theorem HasRead.inbox {c c' : Channel Kernel} {inbox : List Bytes} (h : HasRead c inbox c') :
    c'.transport.inbox = inbox := by
  rw [h.transport]

section

variable {c : Channel Kernel} {data : Bytes} {inbox : List Bytes}

/-- A receive takes the first datagram of the inbox. -/
theorem ends_receive (hinbox : c.transport.inbox = data :: inbox) {wait : Wait}
    {post : Except ChannelError Received → Channel Kernel → Prop}
    (h : ∀ c', HasRead c inbox c' → post (.ok
      (match Datagram.decode (data.take receiveBufferSize) with
      | .ok ms => .messages ms
      | .error fault => .malformed fault)) c') : Ends (receive wait) c post := by
  have hreceive : Transport.receive c.transport wait =
      (⟨.ofDatagram data, false⟩, { c.transport with inbox }) := by
    simp only [Transport.receive, Kernel.receive, hinbox]
  rw [Ends, run_receive hreceive]
  simp only [Arrival.ofDatagram]
  cases hdecode : Datagram.decode (data.take receiveBufferSize) with
  | ok ms =>
      simp only [hdecode] at h
      exact h _ ⟨rfl, rfl⟩
  | error fault =>
      simp only [hdecode] at h
      exact h _ ⟨rfl, rfl⟩

variable {type : MessageType} {sequence : UInt32} {polls : Nat} {reply : Option Message}
  {post : Except ChannelError (Option Message) → Channel Kernel → Prop}

theorem awaitReply_malformed (hinbox : c.transport.inbox = data :: inbox) {fault : Malformation}
    (hdecode : Datagram.decode (data.take receiveBufferSize) = .error fault)
    (h : ∀ c', HasRead c inbox c' → Ends (awaitReply type sequence polls reply) c' post) :
    Ends (awaitReply type sequence (polls + 1) reply) c post := by
  rw [awaitReply, ends_bind]
  refine ends_receive hinbox fun c' hread => ?_
  simp only [hdecode, note, ends_bind, ends_modify]
  exact h _ ⟨hread.transport, hread.options⟩

theorem awaitReply_messages (hinbox : c.transport.inbox = data :: inbox) {ms : List Message}
    (hdecode : Datagram.decode (data.take receiveBufferSize) = .ok ms)
    (h : ∀ c', HasRead c inbox c' →
      match (sift sequence reply ms).code with
      | none => Ends (awaitReply type sequence polls (sift sequence reply ms).reply) c' post
      | some code => post (if code = 0 then .ok (sift sequence reply ms).reply
          else .error (.ofErrorCode code)) c') :
    Ends (awaitReply type sequence (polls + 1) reply) c post := by
  rw [awaitReply, ends_bind]
  refine ends_receive hinbox fun c' hread => ?_
  simp only [hdecode, ends_bind, ends_modify]
  have h' := h { c' with
    pending := c'.pending ++ (sift sequence reply ms).kept
    log := c'.log ++ (sift sequence reply ms).stale.map staleEntry }
    ⟨hread.transport, hread.options⟩
  split
  · rename_i hcode
    simpa only [hcode] using h'
  · rename_i hcode
    simp only [hcode, if_true] at h'
    exact ends_pure.2 h'
  · rename_i code hne hcode
    simp only [hcode, if_neg hne] at h'
    exact ends_throw.2 h'

/-- What carries no number is passed over. -/
theorem awaitReply_unsolicited (hsequence : sequence ≠ 0) {backlog rest : List Bytes}
    (hbacklog : ∀ data ∈ backlog, Kernel.Unsolicited data)
    (hinbox : c.transport.inbox = backlog ++ rest)
    (h : ∀ c', HasRead c rest c' → Ends (awaitReply type sequence polls reply) c' post) :
    Ends (awaitReply type sequence (backlog.length + polls) reply) c post := by
  induction backlog generalizing c with
  | nil =>
      rw [List.length_nil, Nat.zero_add]
      refine h c ⟨?_, rfl⟩
      rw [← show c.transport.inbox = rest from hinbox]
  | cons data backlog ih =>
      rw [List.length_cons, Nat.add_right_comm]
      have hdata := hbacklog data List.mem_cons_self
      have hnext {c' : Channel Kernel} (hread : HasRead c (backlog ++ rest) c') :
          Ends (awaitReply type sequence (backlog.length + polls) reply) c' post := by
        refine ih (fun data hdata => hbacklog data (List.mem_cons_of_mem _ hdata)) hread.inbox ?_
        exact fun c'' hread' => h c'' (hread.trans hread')
      cases hdecode : Datagram.decode (data.take receiveBufferSize) with
      | error fault => exact awaitReply_malformed hinbox hdecode fun c' hread => hnext hread
      | ok ms =>
          obtain ⟨hcode, hreply⟩ := sift_of_unnumbered hsequence reply (hdata ms hdecode)
          refine awaitReply_messages hinbox hdecode fun c' hread => ?_
          simp only [hcode, hreply]
          exact hnext hread

theorem awaitReply_reply {payload : Bytes}
    (hinbox : c.transport.inbox = Datagram.encode .getStatus 0 sequence payload :: inbox)
    (hfits : Datagram.declared payload ≤ maxMessageLength)
    (h : ∀ c', HasRead c inbox c' → Ends (awaitReply type sequence polls
      (some (Datagram.request .getStatus 0 sequence payload))) c' post) :
    Ends (awaitReply type sequence (polls + 1) reply) c post := by
  have hdecode : Datagram.decode ((Datagram.encode .getStatus 0 sequence payload).take
      receiveBufferSize) = .ok [Datagram.request .getStatus 0 sequence payload] := by
    rw [Datagram.take_encode hfits]
    exact Datagram.decode_encode hfits (by decide) (by decide)
  refine awaitReply_messages hinbox hdecode fun c' hread => ?_
  have hcode : (Datagram.request .getStatus 0 sequence payload).errorCode? = none :=
    if_neg (show MessageType.getStatus ≠ .error by decide)
  have hown : (Datagram.request .getStatus 0 sequence payload).header.sequence = sequence := rfl
  simp only [sift, if_pos hown, hcode]
  exact h c' hread

theorem awaitReply_answer {request : Message} {errno : Nat} (herrno : errno < 2 ^ 31)
    (hinbox : c.transport.inbox = Kernel.answerTo request errno :: inbox)
    (h : ∀ c', HasRead c inbox c' →
      post (if errno = 0 then .ok reply else .error (.ofErrorCode errno)) c') :
    Ends (awaitReply type request.header.sequence (polls + 1) reply) c post := by
  refine awaitReply_messages hinbox (Kernel.decode_answerTo request errno) fun c' hread => ?_
  have hown : (Datagram.request .error 0 request.header.sequence (Bytes.ofWord
      (UInt32.ofNat (UInt32.size - errno)) ++ request.header.encode)).header.sequence =
        request.header.sequence := rfl
  simp only [sift, if_pos hown, Kernel.errorCode?_answerTo request herrno, Nat.cast_eq_zero]
  exact h c' hread

end

/-! ### Requests -/

/-- A channel over a kernel that answers requests in time; nothing in its inbox is an answer. -/
structure Ready (c : Channel Kernel) : Prop where
  patient : c.options.replyTimeout ≠ 0
  granting : c.transport.denial = none
  answering : c.transport.muted = false
  inbox : ∀ data ∈ c.transport.inbox, Kernel.Unsolicited data

/-- A channel stays ready while only the inbox changes, and rules and status. -/
theorem Ready.of_hasRead {c c' c'' : Channel Kernel} {inbox : List Bytes} (hready : Ready c)
    (hoptions : c'.options = c.options) (hdenial : c'.transport.denial = c.transport.denial)
    (hmuted : c'.transport.muted = c.transport.muted) (hread : HasRead c' inbox c'')
    (hinbox : ∀ data ∈ inbox, Kernel.Unsolicited data) : Ready c'' where
  patient := by
    rw [hread.options, hoptions]
    exact hready.patient
  granting := by
    rw [hread.transport]
    exact hdenial.trans hready.granting
  answering := by
    rw [hread.transport]
    exact hmuted.trans hready.answering
  inbox := by
    rw [hread.inbox]
    exact hinbox

/-- The message that the next request of a channel is taken as. -/
def nextRequest {σ : Type} (c : Channel σ) (type : MessageType) (payload : Bytes) : Message :=
  Datagram.request type (requestFlag ||| ackFlag) (nextSequence c.sequence) payload

theorem nextSequence_ne_zero (sequence : UInt32) : nextSequence sequence ≠ 0 := by
  rw [nextSequence]
  split
  · decide
  · assumption

section

variable {c : Channel Kernel} (hready : Ready c) {type : MessageType} {payload : Bytes}
  (hfits : Datagram.declared payload ≤ maxMessageLength) (htype : ¬type.isRecord)
  (herror : type ≠ .error)

include hready hfits htype herror

/-- A request is handled, and then waited for as long as there is something in the inbox. -/
theorem request_handled {post : Except ChannelError (Option Message) → Channel Kernel → Prop}
    (h : ∀ c', c'.transport = c.transport.after (c.nextRequest type payload) →
      c'.options = c.options → Ends (awaitReply type (nextSequence c.sequence)
        (c'.transport.inbox.length + 1) none) c' post) : Ends (request type payload) c post := by
  have hsend := Kernel.send_encode hready.answering hfits htype herror (requestFlag ||| ackFlag)
    (nextSequence c.sequence)
  simp only [request, ends_bind, ends_get, ends_set, hsend, note, ends_modify,
    if_neg hready.patient]
  exact h _ rfl rfl

theorem request_performed {k : Kernel}
    (h : c.transport.perform (c.nextRequest type payload) = .ok k) :
    Ends (request type payload) c fun result c' => result = .ok (if type = .getStatus then
        some (Datagram.request .getStatus 0 (nextSequence c.sequence) c.transport.status.encode)
      else none) ∧
      Ready c' ∧ c'.transport.rules = k.rules ∧ c'.transport.status = k.status := by
  refine request_handled hready hfits htype herror fun c' htransport hoptions => ?_
  rw [Kernel.after, Kernel.handle_of_ok hready.granting h] at htransport
  have hframe := Kernel.perform_frame h
  have hdenial : c'.transport.denial = c.transport.denial := by
    rw [htransport, hframe]
  have hmuted : c'.transport.muted = c.transport.muted := by
    rw [htransport, hframe]
  have hrules : c'.transport.rules = k.rules := by rw [htransport]
  have hstatus : c'.transport.status = k.status := by rw [htransport]
  have hinbox := congrArg Kernel.inbox htransport
  rw [hinbox, List.length_append, Nat.add_assoc]
  refine awaitReply_unsolicited (nextSequence_ne_zero _) hready.inbox hinbox fun c'' hread => ?_
  have hreports := Kernel.reports_unsolicited (c.nextRequest type payload)
  -- What the answer leaves behind.
  have hanswer {polls : Nat} {reply : Option Message} {d : Channel Kernel} (hd : HasRead c'
      (Kernel.answerTo (c.nextRequest type payload) 0 ::
        Kernel.reports (c.nextRequest type payload)) d) :
      Ends (awaitReply type (nextSequence c.sequence) (polls + 1) reply) d fun result c' =>
        result = .ok reply ∧
        Ready c' ∧ c'.transport.rules = k.rules ∧ c'.transport.status = k.status := by
    refine awaitReply_answer (by decide) hd.inbox fun d' hread' => ?_
    have hread := hd.trans hread'
    refine ⟨rfl, hready.of_hasRead hoptions hdenial hmuted hread hreports, ?_, ?_⟩
    · rw [hread.transport, hrules]
    · rw [hread.transport, hstatus]
  rw [Kernel.replies] at hread ⊢
  by_cases hget : type = .getStatus
  · have hget' : (c.nextRequest type payload).header.type = .getStatus := hget
    rw [if_pos hget'] at hread ⊢
    rw [if_pos hget]
    exact awaitReply_reply hread.inbox (Status.declared_encode_le _) fun d hread' =>
      hanswer (hread.trans hread')
  · have hget' : (c.nextRequest type payload).header.type ≠ .getStatus := hget
    rw [if_neg hget'] at hread ⊢
    rw [if_neg hget]
    exact hanswer hread

theorem request_refused {errno : Errno}
    (h : c.transport.perform (c.nextRequest type payload) = .error errno) :
    Ends (request type payload) c fun result c' => result = .error (.ofErrorCode errno.code) ∧
      Ready c' ∧ c'.transport.rules = c.transport.rules ∧
      c'.transport.status = c.transport.status := by
  refine request_handled hready hfits htype herror fun c' htransport hoptions => ?_
  rw [Kernel.after, Kernel.handle_of_error hready.granting h] at htransport
  obtain ⟨hpos, hlt⟩ := Kernel.perform_error_code h
  have hinbox := congrArg Kernel.inbox htransport
  rw [hinbox, List.length_append, Nat.add_assoc]
  refine awaitReply_unsolicited (nextSequence_ne_zero _) hready.inbox hinbox fun c'' hread => ?_
  refine awaitReply_answer hlt hread.inbox fun d hread' => ?_
  have hall := hread.trans hread'
  rw [if_neg hpos.ne']
  refine ⟨rfl, hready.of_hasRead hoptions ?_ ?_ hall (List.forall_mem_nil _), ?_, ?_⟩
  · rw [htransport]
  · rw [htransport]
  · rw [hall.transport, htransport]
  · rw [hall.transport, htransport]

end

end Channel

end LinuxAudit
