import Mathlib
import LinuxAudit.Proofs.Channel.Handover
import LinuxAudit.Proofs.Status

/-! In which order the reply and the answer to a request for the status may arrive. The answer ends
the request: a reply before it is read, one behind it is left to the stream of events and the status
is reported missing, `status_of_order`. So the outcome depends on the order, `not_order_independent`.
-/

namespace LinuxAudit

theorem Message.type_of_errorCode? {m : Message} {code : Int} (h : m.errorCode? = some code) :
    m.header.type = .error := by
  by_contra hne
  rw [Message.errorCode?, if_neg hne] at h
  cases h

namespace Channel

/-- The messages that carry the number of a request. -/
def ownMessages (sequence : UInt32) (ms : List Message) : List Message :=
  ms.filter (·.header.sequence = sequence)

section

variable {sequence : UInt32} {ms : List Message} {answer : Message}

theorem ownMessages_cons (sequence : UInt32) (m : Message) (ms : List Message) :
    ownMessages sequence (m :: ms) =
      (if m.header.sequence = sequence then [m] else []) ++ ownMessages sequence ms := by
  rw [ownMessages, List.filter_cons]
  by_cases hm : m.header.sequence = sequence
  · rw [if_pos (decide_eq_true hm), if_pos hm]
    rfl
  · rw [if_neg (hm ∘ of_decide_eq_true), if_neg hm]
    rfl

/-- The answer is the first error reply among the messages with the number of the request. -/
theorem firstAnswer_of_own {replies rest : List Message}
    (hreplies : ∀ m ∈ replies, m.header.type ≠ .error) (hanswer : answer.header.type = .error)
    (hown : ownMessages sequence ms = replies ++ answer :: rest) :
    FirstAnswer sequence ms (beforeAnswer sequence ms) answer ∧
      ownMessages sequence (beforeAnswer sequence ms) = replies ∧
      ownMessages sequence (behindAnswer sequence ms) = rest := by
  induction ms generalizing replies with
  | nil => exact absurd hown.symm (List.append_ne_nil_of_right_ne_nil _ (List.cons_ne_nil _ _))
  | cons m ms ih =>
      -- What comes before the answer is only put in front.
      have hprior {replies : List Message} (hm : ¬Answers sequence m)
          (h : FirstAnswer sequence ms (beforeAnswer sequence ms) answer ∧
            ownMessages sequence (beforeAnswer sequence ms) = replies ∧
            ownMessages sequence (behindAnswer sequence ms) = rest) :
          FirstAnswer sequence (m :: ms) (beforeAnswer sequence (m :: ms)) answer ∧
            ownMessages sequence (beforeAnswer sequence (m :: ms)) =
              (if m.header.sequence = sequence then [m] else []) ++ replies ∧
            ownMessages sequence (behindAnswer sequence (m :: ms)) = rest := by
        obtain ⟨hfirst, rfl, hbehind⟩ := h
        have hm' : ∀ m' ∈ [m], ¬Answers sequence m' := List.forall_mem_singleton.2 hm
        rw [beforeAnswer_cons hm, behindAnswer_cons hm]
        exact ⟨hfirst.append hm', ownMessages_cons sequence m _, hbehind⟩
      rw [ownMessages_cons] at hown
      by_cases hm : m.header.sequence = sequence
      · rw [if_pos hm, List.singleton_append] at hown
        cases replies with
        | nil =>
            obtain ⟨rfl, hrest⟩ := List.cons.inj hown
            have hanswers : Answers sequence m := ⟨hanswer, hm⟩
            rw [beforeAnswer_cons_of_answers hanswers, behindAnswer_cons_of_answers hanswers]
            exact ⟨⟨⟨ms, rfl⟩, hanswers, List.forall_mem_nil _⟩, rfl, hrest⟩
        | cons reply replies =>
            obtain ⟨hreply, hreplies'⟩ := List.forall_mem_cons.1 hreplies
            obtain ⟨rfl, hown'⟩ := List.cons.inj hown
            have h := hprior (hreply ∘ And.left) (ih hreplies' hown')
            rwa [if_pos hm] at h
      · rw [if_neg hm, List.nil_append] at hown
        have h := hprior (hm ∘ And.right) (ih hreplies hown)
        rwa [if_neg hm] at h

theorem FirstAnswer.unique {before before' : List Message} {answer' : Message}
    (h : FirstAnswer sequence ms before answer) (h' : FirstAnswer sequence ms before' answer') :
    before' = before ∧ answer' = answer := by
  obtain ⟨hbefore, hsplit⟩ := h.eq_beforeAnswer
  obtain ⟨hbefore', hsplit'⟩ := h'.eq_beforeAnswer
  obtain rfl : before' = before := hbefore'.trans hbefore.symm
  exact ⟨rfl, (List.cons.inj (List.append_cancel_left (hsplit'.symm.trans hsplit))).1⟩

theorem lastReply_beforeAnswer (sequence : UInt32) (ms : List Message) :
    lastReply sequence (beforeAnswer sequence ms) =
      (ownMessages sequence (beforeAnswer sequence ms)).getLast? := by
  rw [lastReply, ownMessages]
  refine congrArg List.getLast? (List.filter_congr ?_)
  intro m hm
  have hanswers := not_answers_of_mem_beforeAnswer hm
  rw [decide_eq_decide]
  exact ⟨And.left, fun hown => ⟨hown, fun herror => hanswers ⟨herror, hown⟩⟩⟩

/-- Behind the answer only, messages with the number of the request are handed over. -/
theorem ownMessages_handedOver (sequence : UInt32) (ms : List Message) :
    ownMessages sequence (handedOver sequence ms) =
      ownMessages sequence (behindAnswer sequence ms) := by
  have hbefore : ownMessages sequence ((beforeAnswer sequence ms).filter
      (Unrelated sequence)) = [] := by
    refine List.filter_eq_nil_iff.2 ?_
    intro m hm hown
    have hunrelated : Unrelated sequence m := of_decide_eq_true (List.mem_filter.1 hm).2
    exact hunrelated.1 (of_decide_eq_true hown)
  rw [handedOver, ownMessages, List.filter_append]
  exact congrArg (· ++ _) hbefore

end

section

variable {σ : Type} [Transport σ]

/-- A request whose answer is an acknowledgement succeeds. -/
theorem Outcome.eq_ok {c : Channel (Tapped σ)} {data : Bytes} {type : MessageType}
    {sequence : UInt32} {failure : Option Errno} {receptions : List Reception}
    {result : Except ChannelError (Option Message)} {before : List Message} {answer : Message}
    (h : Outcome c data type sequence failure receptions result)
    (hfirst : FirstAnswer sequence (decoded receptions) before answer)
    (hcode : answer.errorCode? = some 0) : result = .ok (lastReply sequence before) := by
  obtain ⟨behind, hsplit⟩ := hfirst.split
  have hmem : answer ∈ decoded receptions := by
    rw [hsplit]
    exact List.mem_append_right before List.mem_cons_self
  cases h with
  | unsent errno => cases hmem
  | sent h =>
      cases h with
      | acknowledged h hcode' =>
          obtain ⟨rfl, -⟩ := hfirst.unique h
          rw [Option.or_none]
      | refused h hcode' hne =>
          obtain ⟨-, rfl⟩ := hfirst.unique h
          exact absurd (Option.some.inj (hcode'.symm.trans hcode)) hne
      | @failed front stop errno hnone =>
          rw [decoded, List.flatMap_append] at hmem
          rcases List.mem_append.1 hmem with hfront | hlast
          · exact absurd hfirst.answers (hnone answer hfront)
          · cases hlast
      | expired hlength hnone => exact absurd hfirst.answers (hnone answer hmem)

/-- What a request gives and hands over, by the messages with its number. -/
theorem Outcome.eq_ok_of_own {c : Channel (Tapped σ)} {data : Bytes} {type : MessageType}
    {sequence : UInt32} {failure : Option Errno} {receptions : List Reception}
    {result : Except ChannelError (Option Message)} {replies rest : List Message} {answer : Message}
    (h : Outcome c data type sequence failure receptions result)
    (hreplies : ∀ m ∈ replies, m.header.type ≠ .error) (hcode : answer.errorCode? = some 0)
    (hown : ownMessages sequence (decoded receptions) = replies ++ answer :: rest) :
    result = .ok replies.getLast? ∧
      ownMessages sequence (handedOver sequence (decoded receptions)) = rest := by
  obtain ⟨hfirst, hbefore, hbehind⟩ :=
    firstAnswer_of_own hreplies (Message.type_of_errorCode? hcode) hown
  rw [h.eq_ok hfirst hcode, lastReply_beforeAnswer, hbefore, ownMessages_handedOver]
  exact ⟨rfl, hbehind⟩

/-- The status that a request for it gives, by what it receives. -/
def statusOf (sequence : UInt32) :
    Except ChannelError (Option Message) → Except ChannelError Status
  | .ok (some reply) =>
    match Status.decode reply.payload with
    | .ok status => .ok status
    | .error fault => .error (.malformed fault)
  | .ok none => .error (.noReply .getStatus sequence)
  | .error e => .error e

theorem status_handsOver (c : Channel (Tapped σ)) :
    Ends status c fun result c' => ∃ failure receptions answered,
      c'.transport.traffic = c.transport.traffic ++ .sent (Datagram.encode .getStatus
        (requestFlag ||| ackFlag) (nextSequence c.sequence) []) failure :: awaited receptions ∧
      c'.pending = c.pending ++ handedOver (nextSequence c.sequence) (decoded receptions) ∧
      Outcome c (Datagram.encode .getStatus (requestFlag ||| ackFlag) (nextSequence c.sequence) [])
        .getStatus (nextSequence c.sequence) failure receptions answered ∧
      result = statusOf (nextSequence c.sequence) answered := by
  rw [status, ends_bind]
  refine (request_handsOver c .getStatus []).mono ?_
  rintro answered c' ⟨failure, receptions, htraffic, hsequence, -, houtcome, hpending⟩
  cases answered with
  | error e => exact ⟨failure, receptions, .error e, htraffic, hpending, houtcome, rfl⟩
  | ok reply =>
      cases reply with
      | none =>
          refine ⟨failure, receptions, .ok none, htraffic, hpending, houtcome, ?_⟩
          rw [statusOf, ← hsequence]
      | some reply =>
          simp only
          cases hdecode : Status.decode reply.payload with
          | ok status =>
              refine ⟨failure, receptions, .ok (some reply), htraffic, hpending, houtcome, ?_⟩
              simp only [statusOf, hdecode]
          | error fault =>
              refine ⟨failure, receptions, .ok (some reply), htraffic, hpending, houtcome, ?_⟩
              simp only [statusOf, hdecode]

end

/-- When a request for the status gives it. If the reply is the first message with the number of the
request and its acknowledgement the second, in whatever datagrams and with whatever messages in
between, the status of the reply is given. If the acknowledgement is the first, the status is
reported missing. All messages with its number behind the acknowledgement are put into the pending
queue, and no other ones. -/
theorem status_of_order {σ : Type} [Transport σ] (c : Channel σ) :
    let n := nextSequence c.sequence
    let result := outcomeOf status c.tapped
    outcomeOf status c = (result.1, result.2.untapped) ∧
    ∃ failure receptions handed,
      result.2.transport.traffic = .sent (Datagram.encode .getStatus (requestFlag ||| ackFlag) n [])
        failure :: awaited receptions ∧
      result.2.pending = c.pending ++ handed ∧
      ∀ reply answer rest, reply.header.type = .getStatus →
        Status.minSize ≤ reply.payload.length → answer.errorCode? = some 0 →
        (ownMessages n (decoded receptions) = reply :: answer :: rest →
          (∃ status, Status.decode reply.payload = .ok status ∧ result.1 = .ok status) ∧
          ownMessages n handed = rest) ∧
        (ownMessages n (decoded receptions) = answer :: rest →
          result.1 = .error (.noReply .getStatus n) ∧ ownMessages n handed = rest) := by
  intro n result
  obtain ⟨failure, receptions, answered, htraffic, hpending, houtcome, hresult⟩ :=
    ends_iff.1 (status_handsOver c.tapped)
  refine ⟨(status_mirrors c.tapped).outcomeOf_eq, failure, receptions, handedOver n
    (decoded receptions), htraffic, hpending, fun reply answer rest htype hsize hcode => ?_⟩
  have houtcome : Outcome c.tapped _ .getStatus n failure receptions answered := houtcome
  have hresult : result.1 = statusOf n answered := hresult
  rw [hresult]
  refine ⟨fun hown => ?_, fun hown => ?_⟩
  · have hreply : ∀ m ∈ [reply], m.header.type ≠ .error := by
      rw [List.forall_mem_singleton, htype]
      decide
    obtain ⟨rfl, hhanded⟩ := houtcome.eq_ok_of_own hreply hcode hown
    obtain ⟨status, hdecode⟩ := Status.exists_decode_eq_ok hsize
    refine ⟨⟨status, hdecode, ?_⟩, hhanded⟩
    simp only [List.getLast?_singleton, statusOf, hdecode]
  · have hnone : ∀ m ∈ ([] : List Message), m.header.type ≠ .error := List.forall_mem_nil _
    obtain ⟨rfl, hhanded⟩ := houtcome.eq_ok_of_own hnone hcode hown
    exact ⟨rfl, hhanded⟩

/-- The acknowledgement of the first request, and behind it the reply with an empty status. -/
def answeredEarly : Channel Script where
  transport := {
    items := [.datagram (Datagram.encode .error 0 1 [0, 0, 0, 0] ++
      Datagram.encode .getStatus 0 1 (Status.encode {}))] }

/-- The status may be reported missing although the reply and the acknowledgement have arrived, if
the reply came second. -/
theorem not_order_independent :
    ¬∀ (c : Channel Script) (data : Bytes) (failure : Option Errno) (receptions : List Reception)
      (reply answer : Message),
      let n := nextSequence c.sequence
      let result := outcomeOf status c.tapped
      result.2.transport.traffic = .sent data failure :: awaited receptions →
      reply.header.type = .getStatus → Status.minSize ≤ reply.payload.length →
      answer.errorCode? = some 0 →
      (ownMessages n (decoded receptions)).Perm [reply, answer] →
      (∃ status, Status.decode reply.payload = .ok status ∧ result.1 = .ok status) ∧
        reply ∉ result.2.pending := by
  intro h
  let answer := Datagram.request .error 0 1 [0, 0, 0, 0]
  let reply := Datagram.request .getStatus 0 1 (Status.encode {})
  let receptions := answeredEarly.transport.items.map Script.Item.reception
  have hown : ownMessages 1 (decoded receptions) = [answer, reply] := by decide +kernel
  obtain ⟨⟨status, -, hok⟩, -⟩ := h answeredEarly (Datagram.encode .getStatus 5 1 []) none
    receptions reply answer (by decide +kernel) rfl (by decide) (by decide)
    (hown ▸ List.Perm.swap reply answer [])
  have hresult : (outcomeOf Channel.status answeredEarly.tapped).1 =
      .error (.noReply .getStatus 1) := by decide +kernel
  rw [hresult] at hok
  cases hok

/-- A record arrives before the reply, an error reply to another request behind it, and the
acknowledgement in a datagram of its own. -/
def answeredLate : Channel Script where
  transport := {
    items := [
      .datagram (Datagram.encode .syscall 0 0 [0x61] ++
        Datagram.encode .getStatus 0 1 (Status.encode (Status.listening 7)) ++
        Datagram.encode .error 0 9 [0, 0, 0, 0]),
      .datagram (Datagram.encode .error 0 1 [0, 0, 0, 0])] }

theorem status_of_order_answeredLate :
    (∃ status, Status.decode (Status.encode (Status.listening 7)) = .ok status ∧
      (outcomeOf Channel.status answeredLate).1 = .ok status) ∧
    (outcomeOf Channel.status answeredLate).2.pending =
      [Datagram.request .syscall 0 0 [0x61]] := by
  obtain ⟨hrun, failure, receptions, handed, htraffic, -, horder⟩ := status_of_order answeredLate
  have htapped : (outcomeOf Channel.status answeredLate.tapped).2.transport.traffic =
      .sent (Datagram.encode .getStatus 5 1 []) none ::
        awaited (answeredLate.transport.items.map Script.Item.reception) := by decide +kernel
  obtain rfl : receptions = answeredLate.transport.items.map Script.Item.reception := by
    have hawaited := (List.cons.inj (htraffic.symm.trans htapped)).2
    exact List.map_injective_iff.2 (fun _ _ h => (Traffic.received.inj h).2) hawaited
  have hown : ownMessages 1 (decoded (answeredLate.transport.items.map Script.Item.reception)) =
      [Datagram.request .getStatus 0 1 (Status.encode (Status.listening 7)),
        Datagram.request .error 0 1 [0, 0, 0, 0]] := by decide +kernel
  obtain ⟨hgiven, -⟩ := (horder _ _ [] rfl (by decide) (by decide)).1 hown
  refine ⟨?_, by decide +kernel⟩
  rw [hrun]
  exact hgiven

end Channel

end LinuxAudit
