import Mathlib
import LinuxAudit.Channel.Script
import LinuxAudit.Proofs.Channel.Completion
import LinuxAudit.Proofs.Channel.Conservation

/-! What a request hands over to the stream of events. Of the messages that it receives before its
answer a request hands over those that have nothing to do with it, and of the datagram that brings
the answer all that stands behind it, `request_handsOver`. So it drops the error replies to other
requests except behind its answer, `stale_handedOver`, and keeps the records except those that carry
its number, `records_handedOver`. -/

namespace LinuxAudit.Channel

/-! ### Messages around the answer -/

instance (sequence : UInt32) : DecidablePred (Answers sequence) := fun m =>
  inferInstanceAs (Decidable (m.header.type = .error ∧ m.header.sequence = sequence))

/-- A message that has nothing to do with a request: it carries another number, and is no error
reply. -/
def Unrelated (sequence : UInt32) (m : Message) : Prop :=
  m.header.sequence ≠ sequence ∧ m.header.type ≠ .error

instance (sequence : UInt32) : DecidablePred (Unrelated sequence) := fun m =>
  inferInstanceAs (Decidable (m.header.sequence ≠ sequence ∧ m.header.type ≠ .error))

/-- An error reply to another request. -/
def Stale (sequence : UInt32) (m : Message) : Prop :=
  m.header.type = .error ∧ m.header.sequence ≠ sequence

instance (sequence : UInt32) : DecidablePred (Stale sequence) := fun m =>
  inferInstanceAs (Decidable (m.header.type = .error ∧ m.header.sequence ≠ sequence))

/-- The messages before the answer to a request, all of them if it is not among them. -/
def beforeAnswer (sequence : UInt32) (ms : List Message) : List Message :=
  ms.takeWhile fun m => ¬Answers sequence m

/-- The messages behind the answer to a request. -/
def behindAnswer (sequence : UInt32) (ms : List Message) : List Message :=
  (ms.dropWhile fun m => ¬Answers sequence m).tail

/-- What a request hands over of the messages that it receives. -/
def handedOver (sequence : UInt32) (ms : List Message) : List Message :=
  (beforeAnswer sequence ms).filter (Unrelated sequence) ++ behindAnswer sequence ms

section

variable {sequence : UInt32} {m : Message} {ms : List Message}

theorem beforeAnswer_cons (h : ¬Answers sequence m) :
    beforeAnswer sequence (m :: ms) = m :: beforeAnswer sequence ms :=
  List.takeWhile_cons_of_pos (decide_eq_true h)

theorem beforeAnswer_cons_of_answers (h : Answers sequence m) :
    beforeAnswer sequence (m :: ms) = [] :=
  List.takeWhile_cons_of_neg fun hn => of_decide_eq_true hn h

theorem behindAnswer_cons (h : ¬Answers sequence m) :
    behindAnswer sequence (m :: ms) = behindAnswer sequence ms :=
  congrArg List.tail (List.dropWhile_cons_of_pos (decide_eq_true h))

theorem behindAnswer_cons_of_answers (h : Answers sequence m) :
    behindAnswer sequence (m :: ms) = ms := by
  have hstop : ¬decide (¬Answers sequence m) = true := fun hn => of_decide_eq_true hn h
  rw [behindAnswer, List.dropWhile_cons, if_neg hstop, List.tail_cons]

theorem handedOver_cons (h : ¬Answers sequence m) : handedOver sequence (m :: ms) =
    (if Unrelated sequence m then [m] else []) ++ handedOver sequence ms := by
  rw [handedOver, beforeAnswer_cons h, behindAnswer_cons h, List.filter_cons]
  by_cases hm : Unrelated sequence m
  · rw [if_pos (decide_eq_true hm), if_pos hm]
    rfl
  · rw [if_neg (hm ∘ of_decide_eq_true), if_neg hm]
    rfl

theorem handedOver_cons_of_answers (h : Answers sequence m) :
    handedOver sequence (m :: ms) = ms := by
  rw [handedOver, beforeAnswer_cons_of_answers h, behindAnswer_cons_of_answers h]
  rfl

theorem not_answers_of_mem_beforeAnswer (h : m ∈ beforeAnswer sequence ms) :
    ¬Answers sequence m :=
  of_decide_eq_true (List.mem_takeWhile_imp (p := fun m => ¬Answers sequence m) h)

/-- What does not hold of an answer holds of messages before it and behind it only. -/
theorem filter_eq_append {p : Message → Bool} (hp : ∀ m, Answers sequence m → p m = false)
    (ms : List Message) :
    ms.filter p = (beforeAnswer sequence ms).filter p ++ (behindAnswer sequence ms).filter p := by
  induction ms with
  | nil => rfl
  | cons m ms ih =>
      by_cases hm : Answers sequence m
      · rw [beforeAnswer_cons_of_answers hm, behindAnswer_cons_of_answers hm, List.filter_cons,
          hp m hm]
        rfl
      · rw [beforeAnswer_cons hm, behindAnswer_cons hm, List.filter_cons, List.filter_cons, ih]
        split
        · rfl
        · rfl

theorem FirstAnswer.eq_beforeAnswer {before : List Message} {answer : Message}
    (h : FirstAnswer sequence ms before answer) :
    before = beforeAnswer sequence ms ∧ ms = before ++ answer :: behindAnswer sequence ms := by
  obtain ⟨behind, rfl⟩ := h.split
  have hfirst := h.first
  induction before with
  | nil =>
      rw [List.nil_append, beforeAnswer_cons_of_answers h.answers,
        behindAnswer_cons_of_answers h.answers]
      exact ⟨rfl, rfl⟩
  | cons m before ih =>
      obtain ⟨hm, hbefore⟩ := List.forall_mem_cons.1 hfirst
      obtain ⟨hbefore', hsplit⟩ := ih ⟨⟨behind, rfl⟩, h.answers, hbefore⟩ hbefore
      rw [List.cons_append, beforeAnswer_cons hm, behindAnswer_cons hm, ← hbefore']
      exact ⟨rfl, congrArg (m :: ·) hsplit⟩

/-- A request that succeeds gives the last reply with its number before the answer. -/
theorem Outcome.eq_lastReply {σ : Type} [Transport σ] {c : Channel (Tapped σ)} {data : Bytes}
    {type : MessageType} {failure : Option Errno} {receptions : List Reception}
    {reply : Option Message}
    (h : Outcome c data type sequence failure receptions (.ok reply)) :
    reply = lastReply sequence (beforeAnswer sequence (decoded receptions)) := by
  obtain ⟨before, answer, hfirst, -, hreply⟩ := h.of_ok
  rw [hreply, hfirst.eq_beforeAnswer.1]

end

/-! ### What is kept of receptions -/

/-- Sorting messages while a request waits keeps what it hands over. -/
theorem kept_map_answered (sequence : UInt32) (ms : List Message) :
    kept (some sequence) (ms.map .answered) = handedOver sequence ms := by
  induction ms with
  | nil => rfl
  | cons m ms ih =>
      rw [List.map_cons, kept]
      by_cases hown : m.header.sequence = sequence
      · rw [if_pos hown]
        by_cases herror : m.header.type = .error
        · have hkept := kept_answered ms []
          rw [List.append_nil, kept, List.append_nil] at hkept
          rw [if_pos herror, handedOver_cons_of_answers ⟨herror, hown⟩, hkept]
        · rw [if_neg herror, handedOver_cons (herror ∘ And.left),
            if_neg fun h : Unrelated sequence m => h.1 hown, ih]
          rfl
      · have hanswers : ¬Answers sequence m := fun h => hown h.2
        rw [if_neg hown, handedOver_cons hanswers]
        by_cases herror : m.header.type = .error
        · rw [if_pos herror, if_neg fun h : Unrelated sequence m => h.2 herror, ih]
          rfl
        · have hm : Unrelated sequence m := ⟨hown, herror⟩
          rw [if_neg herror, if_pos hm, ih]
          rfl

/-- Datagrams that cannot be read bring nothing that is kept. -/
theorem kept_filter_garbled (waiting : Option UInt32) (signals : List Signal) :
    kept waiting (signals.filter (· ≠ .garbled)) = kept waiting signals := by
  induction signals generalizing waiting with
  | nil => rfl
  | cons signal signals ih =>
      rw [List.filter_cons]
      by_cases hs : signal = .garbled
      · rw [hs, if_neg (by decide), kept, ih]
      · rw [if_pos (decide_eq_true hs), kept_cons, ih, ← kept_cons]

theorem signals_received_reply (reception : Reception) :
    (Traffic.received .reply reception).signals.filter (· ≠ .garbled) =
      reception.messages.map .answered := by
  rw [Traffic.signals, Reception.messages]
  cases reception.arrival with
  | nothing => rfl
  | failure errno => rfl
  | datagram data =>
      simp only
      cases Datagram.decode data with
      | error fault => rfl
      | ok messages =>
          refine List.filter_eq_self.2 ?_
          intro signal hsignal
          obtain ⟨m, -, rfl⟩ := List.mem_map.1 hsignal
          exact decide_eq_true (Signal.arrived_ne_garbled .reply m)

theorem kept_awaited (sequence : UInt32) (receptions : List Reception) :
    kept (some sequence) ((awaited receptions).flatMap Traffic.signals) =
      handedOver sequence (decoded receptions) := by
  rw [← kept_filter_garbled, ← kept_map_answered, awaited, decoded, List.flatMap_map,
    List.filter_flatMap, List.map_flatMap]
  simp only [signals_received_reply]

section

variable {σ : Type} [Transport σ]

/-- A request puts what it hands over behind what is pending. -/
theorem request_handsOver (c : Channel (Tapped σ)) (type : MessageType) (payload : Bytes) :
    Ends (request type payload) c fun result c' => ∃ failure receptions,
      c'.transport.traffic = c.transport.traffic ++ .sent (Datagram.encode type
        (requestFlag ||| ackFlag) (nextSequence c.sequence) payload) failure ::
          awaited receptions ∧
      c'.sequence = nextSequence c.sequence ∧
      AnsweredLast (nextSequence c.sequence) receptions ∧
      Outcome c (Datagram.encode type (requestFlag ||| ackFlag) (nextSequence c.sequence) payload)
        type (nextSequence c.sequence) failure receptions result ∧
      c'.pending = c.pending ++ handedOver (nextSequence c.sequence) (decoded receptions) := by
  refine ((request_answered c type payload).and (request_adds c type payload)).mono ?_
  rintro result c' ⟨⟨failure, receptions, htraffic, hsequence, hlast, houtcome⟩,
    new, hmoved, hpending⟩
  refine ⟨failure, receptions, htraffic, hsequence, hlast, houtcome, ?_⟩
  have hnew : new = .asked (nextSequence c.sequence) ::
      (awaited receptions).flatMap Traffic.signals := by
    have hsignals := hmoved.signals
    rw [signals, htraffic, List.flatMap_append, List.flatMap_cons, Traffic.signals_sent] at hsignals
    exact (List.append_cancel_left hsignals).symm
  rw [hpending none, hnew, kept, kept_awaited]

end

/-! ### Error replies to other requests -/

/-- Of the error replies to other requests, those behind the answer are handed over. -/
theorem filter_stale_handedOver (sequence : UInt32) (ms : List Message) :
    (handedOver sequence ms).filter (Stale sequence) =
      (behindAnswer sequence ms).filter (Stale sequence) := by
  have hbefore : ((beforeAnswer sequence ms).filter (Unrelated sequence)).filter
      (Stale sequence) = [] := by
    refine List.filter_eq_nil_iff.2 ?_
    intro m hm hstale
    have hunrelated : Unrelated sequence m := of_decide_eq_true (List.mem_filter.1 hm).2
    exact hunrelated.2 (of_decide_eq_true hstale).1
  rw [handedOver, List.filter_append, hbefore, List.nil_append]

/-- Which error replies to other requests a request puts into the pending queue: those that stand
behind its own answer, in the datagram that brought it. All others are dropped, so that none is
pending unless one stands there. -/
theorem stale_handedOver {σ : Type} [Transport σ] (c : Channel σ) (type : MessageType)
    (payload : Bytes) :
    let n := nextSequence c.sequence
    let result := outcomeOf (request type payload) c.tapped
    outcomeOf (request type payload) c = (result.1, result.2.untapped) ∧
    ∃ failure receptions handed,
      result.2.transport.traffic = .sent (Datagram.encode type (requestFlag ||| ackFlag) n payload)
        failure :: awaited receptions ∧
      result.2.pending = c.pending ++ handed ∧
      AnsweredLast n receptions ∧
      handed.filter (Stale n) = (behindAnswer n (decoded receptions)).filter (Stale n) ∧
      ((∀ m ∈ handed, ¬Stale n m) ↔ ∀ m ∈ behindAnswer n (decoded receptions), ¬Stale n m) := by
  intro n result
  obtain ⟨failure, receptions, htraffic, -, hlast, -, hpending⟩ :=
    ends_iff.1 (request_handsOver c.tapped type payload)
  have hfilter := filter_stale_handedOver n (decoded receptions)
  have hnone (ms : List Message) :
      (∀ m ∈ ms, ¬Stale n m) ↔ ms.filter (Stale n) = [] := by
    rw [List.filter_eq_nil_iff]
    exact forall₂_congr fun m _ => not_congr decide_eq_true_iff.symm
  refine ⟨(request_mirrors c.tapped type payload).outcomeOf_eq, failure, receptions,
    handedOver n (decoded receptions), htraffic, hpending, hlast, hfilter, ?_⟩
  rw [hnone, hnone, hfilter]

/-- The answer to the first request, and behind it an error reply to another one. -/
def staleBehind : Channel Script where
  transport := {
    items := [.datagram (Datagram.encode .error 0 1 [0, 0, 0, 0] ++
      Datagram.encode .error 0 42 [0, 0, 0, 0])] }

/-- An error reply to another request can be put into the pending queue, and delivered as an
event. -/
theorem not_always_dropped :
    (¬∀ (c : Channel Script) (type : MessageType) (payload : Bytes), c.pending = [] →
      ∀ m ∈ (outcomeOf (request type payload) c).2.pending,
        ¬Stale (nextSequence c.sequence) m) ∧
    ¬∀ (c : Channel Script) (enabled : Bool) (polls : Nat), c.pending = [] →
      ∀ event ∈ (run c [.setEnabled enabled, .receiveEvent .nonBlocking polls]).events,
        ¬Stale (nextSequence c.sequence) event.primary := by
  refine ⟨fun h => ?_, fun h => ?_⟩
  · refine h staleBehind .setStatus [] rfl (Datagram.request .error 0 42 [0, 0, 0, 0]) ?_ ?_
    · decide +kernel
    · decide +kernel
  · refine h staleBehind true 1 rfl ⟨Datagram.request .error 0 42 [0, 0, 0, 0], []⟩ ?_ ?_
    · decide +kernel
    · decide +kernel

theorem stale_handedOver_staleBehind :
    ∃ receptions, AnsweredLast 1 receptions ∧
      (behindAnswer 1 (decoded receptions)).filter (Stale 1) =
        [Datagram.request .error 0 42 [0, 0, 0, 0]] := by
  obtain ⟨-, failure, receptions, handed, -, hpending, hlast, hfilter, -⟩ :=
    stale_handedOver staleBehind .setStatus []
  have hhanded : (outcomeOf (request .setStatus []) staleBehind.tapped).2.pending =
      [Datagram.request .error 0 42 [0, 0, 0, 0]] := by decide +kernel
  rw [hhanded] at hpending
  refine ⟨receptions, hlast, hfilter.symm.trans ?_⟩
  rw [← show _ = handed from hpending]
  decide +kernel

/-! ### Records -/

section

variable {σ : Type} [Transport σ]

theorem taken?_of_pending {c : Channel σ} {m : Message} {pending : List Message}
    (hpending : c.pending = m :: pending) {op : Operation} (hop : op.isReceive = true) :
    op.taken? c = some m := by
  cases op with
  | receiveEvent mode polls =>
      simp only [Operation.taken?, run_nextMessage_of_pending hpending]
  | _ => cases hop

theorem taken?_of_not_isReceive {c : Channel σ} {op : Operation} (hop : op.isReceive = false) :
    op.taken? c = none := by
  cases op with
  | receiveEvent mode polls => cases hop
  | _ => rfl

/-- What is pending is dispatched in order, one message by each receive, whatever requests are made
in between. -/
theorem dispatched_eq_append_take (p : Progress (Tapped σ)) (ops : List Operation)
    (hops : ops.countP Operation.isReceive ≤ p.channel.pending.length) :
    (ops.foldl Progress.step p).dispatched =
      p.dispatched ++ p.channel.pending.take (ops.countP Operation.isReceive) := by
  induction ops generalizing p with
  | nil => exact (List.append_nil _).symm
  | cons op ops ih =>
      obtain ⟨new, -, -, hpending, -⟩ := outcome_conserves p.channel op
      have hpending := hpending none
      rw [List.foldl_cons]
      cases hop : op.isReceive with
      | true =>
          rw [List.countP_cons_of_pos hop] at hops ⊢
          obtain ⟨m, pending, hm⟩ := List.exists_cons_of_length_pos (Nat.zero_lt_of_lt hops)
          have htaken := taken?_of_pending hm hop
          rw [hm, htaken] at hpending
          have hlater : (p.step op).channel.pending = pending ++ kept none new :=
            (List.cons.inj hpending).2.symm
          rw [hm, List.length_cons, Nat.add_le_add_iff_right] at hops
          rw [ih (p.step op), hlater, List.take_append_of_le_length hops, hm, List.take_succ_cons,
            Progress.step, htaken, Option.toList_some, List.append_assoc, List.singleton_append]
          rw [hlater, List.length_append]
          exact Nat.le_add_right_of_le hops
      | false =>
          rw [List.countP_cons_of_neg (Bool.not_eq_true _ ▸ hop)] at hops ⊢
          have htaken := taken?_of_not_isReceive (c := p.channel) hop
          rw [htaken] at hpending
          have hlater : (p.step op).channel.pending = p.channel.pending ++ kept none new :=
            hpending.symm
          rw [ih (p.step op), hlater, List.take_append_of_le_length hops, Progress.step, htaken,
            Option.toList_none, List.append_nil]
          rw [hlater, List.length_append]
          exact Nat.le_add_right_of_le hops

theorem dispatched_eq_take (c : Channel σ) (ops : List Operation)
    (hops : ops.countP Operation.isReceive ≤ c.pending.length) :
    (run c ops).dispatched = c.pending.take (ops.countP Operation.isReceive) := by
  rw [← run_tapped c ops]
  exact dispatched_eq_append_take { channel := c.tapped } ops hops

end

theorem Answers.not_isRecord {sequence : UInt32} {m : Message} (h : Answers sequence m) :
    m.header.type.isRecord = false := by
  rw [h.1]
  rfl

/-- The records that a request hands over: those with another number before the answer, and all
behind it. -/
theorem filter_isRecord_handedOver (sequence : UInt32) (ms : List Message) :
    (handedOver sequence ms).filter (·.header.type.isRecord) =
      ((beforeAnswer sequence ms).filter (·.header.type.isRecord)).filter
        (·.header.sequence ≠ sequence) ++
      (behindAnswer sequence ms).filter (·.header.type.isRecord) := by
  have hbefore : ((beforeAnswer sequence ms).filter (Unrelated sequence)).filter
      (·.header.type.isRecord) = ((beforeAnswer sequence ms).filter
        (·.header.type.isRecord)).filter (·.header.sequence ≠ sequence) := by
    rw [List.filter_filter, List.filter_filter]
    refine List.filter_congr ?_
    intro m _
    by_cases hrecord : m.header.type.isRecord
    · have herror : m.header.type ≠ .error := by
        intro h
        rw [h] at hrecord
        cases hrecord
      simp only [hrecord, Bool.true_and, Bool.and_true, Unrelated, ne_eq, herror,
        not_false_eq_true, and_true]
    · simp only [hrecord, Bool.false_and, Bool.and_false]
  rw [handedOver, List.filter_append, hbefore]

/-- The records that arrive while a request waits are put behind what is pending, once each and in
the order of arrival, except those that carry the number of the request and come before its answer:
these are taken for its reply, and a request that succeeds gives the last message taken so. What is
put there is dispatched by the receives to come, whatever requests are made in between. -/
theorem records_handedOver {σ : Type} [Transport σ] (c : Channel σ) (type : MessageType)
    (payload : Bytes) :
    let n := nextSequence c.sequence
    let result := outcomeOf (request type payload) c.tapped
    outcomeOf (request type payload) c = (result.1, result.2.untapped) ∧
    ∃ failure receptions handed,
      result.2.transport.traffic = .sent (Datagram.encode type (requestFlag ||| ackFlag) n payload)
        failure :: awaited receptions ∧
      result.2.pending = c.pending ++ handed ∧
      AnsweredLast n receptions ∧
      Outcome c.tapped (Datagram.encode type (requestFlag ||| ackFlag) n payload) type n failure
        receptions result.1 ∧
      (∀ reply, result.1 = .ok reply → reply = lastReply n (beforeAnswer n (decoded receptions))) ∧
      handed.filter (·.header.type.isRecord) =
        ((beforeAnswer n (decoded receptions)).filter (·.header.type.isRecord)).filter
          (·.header.sequence ≠ n) ++
        (behindAnswer n (decoded receptions)).filter (·.header.type.isRecord) ∧
      (handed.filter (·.header.type.isRecord) =
          (decoded receptions).filter (·.header.type.isRecord) ↔
        ∀ m ∈ beforeAnswer n (decoded receptions),
          m.header.type.isRecord = true → m.header.sequence ≠ n) ∧
      ∀ ops, ops.countP Operation.isReceive ≤ (c.pending ++ handed).length →
        (run result.2.untapped ops).dispatched =
          (c.pending ++ handed).take (ops.countP Operation.isReceive) := by
  intro n result
  obtain ⟨failure, receptions, htraffic, -, hlast, houtcome, hpending⟩ :=
    ends_iff.1 (request_handsOver c.tapped type payload)
  have hpending : result.2.pending = c.pending ++ handedOver n (decoded receptions) := hpending
  have houtcome : Outcome c.tapped (Datagram.encode type (requestFlag ||| ackFlag) n payload) type n
    failure receptions result.1 := houtcome
  have hfilter := filter_isRecord_handedOver n (decoded receptions)
  refine ⟨(request_mirrors c.tapped type payload).outcomeOf_eq, failure, receptions,
    handedOver n (decoded receptions), htraffic, hpending, hlast, houtcome, ?_, hfilter, ?_, ?_⟩
  · intro reply hreply
    exact Outcome.eq_lastReply (hreply ▸ houtcome)
  · have hnot (m : Message) (hm : Answers n m) : m.header.type.isRecord = false := hm.not_isRecord
    rw [hfilter, filter_eq_append hnot (decoded receptions), List.append_left_inj,
      List.filter_eq_self]
    simp only [List.mem_filter, and_imp, decide_eq_true_eq]
  · intro ops hops
    rw [← hpending] at hops ⊢
    exact dispatched_eq_take result.2.untapped ops hops

/-- A record with the number of the first request arrives before the answer to it. -/
def numberedRecord : Channel Script where
  transport := {
    items := [
      .datagram (Datagram.encode .syscall 0 1 [0x61]),
      .datagram (Datagram.encode .error 0 1 [0, 0, 0, 0])] }

/-- The record is what the request gives. -/
example : (outcomeOf (request .setStatus []) numberedRecord).1 =
    .ok (some (Datagram.request .syscall 0 1 [0x61])) := by
  decide +kernel

/-- A record that arrives while a request waits can be lost. -/
theorem not_always_kept :
    ¬∀ (c : Channel Script) (type : MessageType) (payload data : Bytes) (failure : Option Errno)
      (receptions : List Reception),
      let c' := (outcomeOf (request type payload) c.tapped).2
      c'.transport.traffic = .sent data failure :: awaited receptions →
      AllReadable c'.transport.traffic →
      ∀ m ∈ decoded receptions, m.header.type.isRecord = true → m ∈ c'.pending := by
  intro h
  have hreadable := garbled_not_mem_iff.1 (show .garbled ∉
    (outcomeOf (request .setStatus []) numberedRecord.tapped).2.signals by decide +kernel)
  have hmem := h numberedRecord .setStatus [] (Datagram.encode .setStatus 5 1 []) none
    [⟨.datagram (Datagram.encode .syscall 0 1 [0x61]), false⟩,
      ⟨.datagram (Datagram.encode .error 0 1 [0, 0, 0, 0]), false⟩]
    (by decide +kernel) hreadable (Datagram.request .syscall 0 1 [0x61]) (by decide +kernel) rfl
  revert hmem
  decide +kernel

/-- A record arrives before the answer, and one in the datagram of the answer behind it. -/
theorem records_handedOver_busy :
    let later : List Operation := [.receiveEvent .nonBlocking 1, .setEnabled false,
      .receiveEvent .nonBlocking 1, .receiveEvent .nonBlocking 1]
    (outcomeOf (request .setStatus []) busy.tapped).2.pending =
      busy.pending ++ [Datagram.request .path 0 0 [0x61], Datagram.request .endOfEvent 0 0 []] ∧
    (run (outcomeOf (request .setStatus []) busy.tapped).2.untapped later).dispatched =
      busy.pending ++
        [Datagram.request .path 0 0 [0x61], Datagram.request .endOfEvent 0 0 []] := by
  intro later
  have hresult : (outcomeOf (request .setStatus []) busy.tapped).2.pending =
      busy.pending ++ [Datagram.request .path 0 0 [0x61], Datagram.request .endOfEvent 0 0 []] := by
    decide +kernel
  obtain ⟨-, failure, receptions, handed, -, hpending, -, -, -, -, -, hdispatched⟩ :=
    records_handedOver busy .setStatus []
  obtain rfl := List.append_cancel_left (hresult.symm.trans hpending)
  exact ⟨hresult, hdispatched later (by decide)⟩

end LinuxAudit.Channel
