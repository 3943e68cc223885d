import Mathlib
import LinuxAudit.Channel.Script
import LinuxAudit.Proofs.Channel.Stream

/-! How a request is completed. Requests are numbered in a circle that leaves zero out, and a
request ends with the first error reply that carries its own number, with a failure of the transport
or with its deadline, and in no other way: `request_completed`. -/

namespace LinuxAudit

/-- The messages that a reception brings. A datagram that cannot be read brings none. -/
def Reception.messages (reception : Reception) : List Message :=
  match reception.arrival with
  | .datagram data =>
    match Datagram.decode data with
    | .ok messages => messages
    | .error _ => []
  | _ => []

namespace Channel

/-! ### Numbers of requests -/

/-- The number that the `n`-th request carries. The first one is number one. -/
def requestNumber (n : Nat) : UInt32 :=
  UInt32.ofNat ((n - 1) % (UInt32.size - 1) + 1)

/-- The number of the last of so many requests, zero if there was none. -/
def lastNumber (n : Nat) : UInt32 :=
  if n = 0 then 0 else requestNumber n

theorem toNat_requestNumber (n : Nat) :
    (requestNumber n).toNat = (n - 1) % (UInt32.size - 1) + 1 := by
  rw [requestNumber, UInt32.toNat_ofNat', UInt32.size]
  omega

theorem requestNumber_ne_zero (n : Nat) : requestNumber n ≠ 0 := by
  intro h
  have hzero := congrArg UInt32.toNat h
  rw [toNat_requestNumber] at hzero
  cases hzero

/-- Requests that are less than a round apart carry different numbers. -/
theorem requestNumber_ne {m n : Nat} (hm : 0 < m) (hmn : m < n)
    (hround : n - m < UInt32.size - 1) : requestNumber m ≠ requestNumber n := by
  intro h
  have hnat := congrArg UInt32.toNat h
  rw [toNat_requestNumber, toNat_requestNumber, UInt32.size] at hnat
  rw [UInt32.size] at hround
  omega

theorem nextSequence_lastNumber (n : Nat) :
    nextSequence (lastNumber n) = requestNumber (n + 1) := by
  by_cases hn : n = 0
  · rw [hn]
    rfl
  · have hlast := toNat_requestNumber n
    have hnext := toNat_requestNumber (n + 1)
    have hsucc : (requestNumber n + 1).toNat = ((requestNumber n).toNat + 1) % UInt32.size := by
      rw [UInt32.toNat_add]
      rfl
    rw [UInt32.size] at hlast hnext hsucc
    rw [lastNumber, if_neg hn, nextSequence]
    apply UInt32.toNat_inj.1
    by_cases hround : requestNumber n + 1 = 0
    · have hzero := congrArg UInt32.toNat hround
      rw [hsucc, UInt32.toNat_zero] at hzero
      rw [if_pos hround, hnext, UInt32.toNat_one]
      omega
    · have hzero : (requestNumber n + 1).toNat ≠ 0 := fun h => hround (UInt32.toNat_inj.1 h)
      rw [if_neg hround, hsucc, hnext]
      omega

/-! ### Answers among messages -/

/-- The messages that some receptions bring, oldest first. -/
def decoded (receptions : List Reception) : List Message :=
  receptions.flatMap Reception.messages

/-- An error reply to the request with a number. -/
def Answers (sequence : UInt32) (m : Message) : Prop :=
  m.header.type = .error ∧ m.header.sequence = sequence

/-- Among some messages, the first error reply to a request, and the messages before it. -/
structure FirstAnswer (sequence : UInt32) (ms before : List Message) (answer : Message) :
    Prop where
  split : ∃ behind, ms = before ++ answer :: behind
  answers : Answers sequence answer
  first : ∀ m ∈ before, ¬Answers sequence m

/-- The last reply to a request that is not an error reply. -/
def lastReply (sequence : UInt32) (ms : List Message) : Option Message :=
  (ms.filter fun m => m.header.sequence = sequence ∧ m.header.type ≠ .error).getLast?

theorem FirstAnswer.append {sequence : UInt32} {ms before : List Message} {answer : Message}
    (h : FirstAnswer sequence ms before answer) {prior : List Message}
    (hprior : ∀ m ∈ prior, ¬Answers sequence m) :
    FirstAnswer sequence (prior ++ ms) (prior ++ before) answer where
  split := by
    obtain ⟨behind, rfl⟩ := h.split
    exact ⟨behind, (List.append_assoc _ _ _).symm⟩
  answers := h.answers
  first := List.forall_mem_append.2 ⟨hprior, h.first⟩

theorem lastReply_append (sequence : UInt32) (ms more : List Message) :
    lastReply sequence (ms ++ more) = (lastReply sequence more).or (lastReply sequence ms) := by
  rw [lastReply, List.filter_append, List.getLast?_append]
  rfl

theorem lastReply_singleton (sequence : UInt32) (m : Message) : lastReply sequence [m] =
    if m.header.sequence = sequence ∧ m.header.type ≠ .error then some m else none := by
  rw [lastReply, List.filter_cons, List.filter_nil]
  by_cases hreply : m.header.sequence = sequence ∧ m.header.type ≠ .error
  · rw [if_pos (decide_eq_true hreply), if_pos hreply]
    rfl
  · rw [if_neg (hreply ∘ of_decide_eq_true), if_neg hreply]
    rfl

/-- Sorting messages up to the answer that a request waits for. -/
theorem sift_cases (sequence : UInt32) (reply : Option Message) {ms : List Message}
    (hms : ∀ m ∈ ms, m.header.type = .error → m.errorCode?.isSome) :
    ((sift sequence reply ms).code = none ∧ (∀ m ∈ ms, ¬Answers sequence m) ∧
      (sift sequence reply ms).reply = (lastReply sequence ms).or reply) ∨
    ∃ before answer code, (sift sequence reply ms).code = some code ∧
      FirstAnswer sequence ms before answer ∧ answer.errorCode? = some code ∧
      (sift sequence reply ms).reply = (lastReply sequence before).or reply := by
  induction ms generalizing reply with
  | nil => exact .inl ⟨rfl, fun m hm => absurd hm List.not_mem_nil, rfl⟩
  | cons m ms ih =>
      have ih reply := ih reply fun m' hm' => hms m' (List.mem_cons_of_mem m hm')
      by_cases hanswers : Answers sequence m
      · obtain ⟨htype, hown⟩ := hanswers
        obtain ⟨code, hcode⟩ := Option.isSome_iff_exists.1 (hms m List.mem_cons_self htype)
        refine .inr ⟨[], m, code, ?_, ⟨⟨ms, rfl⟩, ⟨htype, hown⟩, ?_⟩, hcode, ?_⟩
        · simp only [sift, if_pos hown, hcode]
        · intro m' hm'
          exact absurd hm' List.not_mem_nil
        · simp only [sift, if_pos hown, hcode]
          rfl
      · -- What the rest is sorted with is the last reply up to here.
        obtain ⟨reply', hreply', hcode, hlast⟩ : ∃ reply',
            reply' = (lastReply sequence [m]).or reply ∧
            (sift sequence reply (m :: ms)).code = (sift sequence reply' ms).code ∧
            (sift sequence reply (m :: ms)).reply = (sift sequence reply' ms).reply := by
          by_cases hown : m.header.sequence = sequence
          · have htype : m.header.type ≠ .error := fun htype => hanswers ⟨htype, hown⟩
            refine ⟨some m, ?_, ?_, ?_⟩
            · rw [lastReply_singleton, if_pos ⟨hown, htype⟩, Option.some_or]
            all_goals simp only [sift, if_pos hown, errorCode?_eq_none_of_ne htype]
          · refine ⟨reply, ?_, ?_, ?_⟩
            · rw [lastReply_singleton, if_neg (hown ∘ And.left), Option.none_or]
            all_goals
              simp only [sift, if_neg hown]
              split
              all_goals rfl
        rw [hcode, hlast]
        have hprior : ∀ m' ∈ [m], ¬Answers sequence m' := by
          rwa [List.forall_mem_singleton]
        rcases ih reply' with ⟨hnone, hrest, h⟩ | ⟨before, answer, code, hsome, hfirst, hanswer, h⟩
        · refine .inl ⟨hnone, List.forall_mem_cons.2 ⟨hanswers, hrest⟩, ?_⟩
          rw [h, hreply', ← Option.or_assoc, ← lastReply_append]
          rfl
        · refine .inr ⟨m :: before, answer, code, hsome, hfirst.append hprior, hanswer, ?_⟩
          rw [h, hreply', ← Option.or_assoc, ← lastReply_append]
          rfl

/-! ### How a request ends -/

/-- How waiting for the answer to a request ends in so many receives at most, given the last reply
so far and what is received. -/
inductive Completion (type : MessageType) (sequence : UInt32) (reply : Option Message) :
    Nat → List Reception → Except ChannelError (Option Message) → Prop
  | acknowledged {polls : Nat} {receptions : List Reception} {before : List Message}
      {answer : Message} (h : FirstAnswer sequence (decoded receptions) before answer)
      (hcode : answer.errorCode? = some 0) :
      Completion type sequence reply polls receptions (.ok ((lastReply sequence before).or reply))
  | refused {polls : Nat} {receptions : List Reception} {before : List Message}
      {answer : Message} {code : Int} (h : FirstAnswer sequence (decoded receptions) before answer)
      (hcode : answer.errorCode? = some code) (hne : code ≠ 0) :
      Completion type sequence reply polls receptions (.error (.ofErrorCode code))
  | failed {polls : Nat} {front : List Reception} {stop : Bool} {errno : Errno}
      (h : ∀ m ∈ decoded front, ¬Answers sequence m) :
      Completion type sequence reply polls (front ++ [⟨.failure errno, stop⟩])
        (.error (.transport errno))
  | expired {polls : Nat} {receptions : List Reception} (hlength : receptions.length = polls)
      (h : ∀ m ∈ decoded receptions, ¬Answers sequence m) :
      Completion type sequence reply polls receptions (.error (.noReply type sequence))

/-- A reception without an answer only makes another reply the last one. -/
theorem Completion.cons {type : MessageType} {sequence : UInt32} {reply : Option Message}
    {polls : Nat} {receptions : List Reception} {result : Except ChannelError (Option Message)}
    {reception : Reception} (hnone : ∀ m ∈ reception.messages, ¬Answers sequence m)
    (h : Completion type sequence ((lastReply sequence reception.messages).or reply) polls
      receptions result) :
    Completion type sequence reply (polls + 1) (reception :: receptions) result := by
  have hdecoded (receptions : List Reception) :
      decoded (reception :: receptions) = reception.messages ++ decoded receptions := rfl
  have hforall {receptions : List Reception} (h : ∀ m ∈ decoded receptions, ¬Answers sequence m) :
      ∀ m ∈ decoded (reception :: receptions), ¬Answers sequence m :=
    List.forall_mem_append.2 ⟨hnone, h⟩
  cases h with
  | acknowledged h hcode =>
      rw [← Option.or_assoc, ← lastReply_append]
      exact .acknowledged (hdecoded _ ▸ h.append hnone) hcode
  | refused h hcode hne => exact .refused (hdecoded _ ▸ h.append hnone) hcode hne
  | failed h => exact .failed (hforall h)
  | expired hlength h => exact .expired (congrArg Nat.succ hlength) (hforall h)

/-- A request that is answered receives no more: only the last reception can bring an answer. -/
def AnsweredLast (sequence : UInt32) (receptions : List Reception) : Prop :=
  ∀ m ∈ decoded receptions.dropLast, ¬Answers sequence m

theorem answeredLast_nil (sequence : UInt32) : AnsweredLast sequence [] :=
  List.forall_mem_nil _

theorem answeredLast_singleton (sequence : UInt32) (reception : Reception) :
    AnsweredLast sequence [reception] :=
  List.forall_mem_nil _

theorem AnsweredLast.cons {sequence : UInt32} {reception : Reception} {receptions : List Reception}
    (hnone : ∀ m ∈ reception.messages, ¬Answers sequence m) (h : AnsweredLast sequence receptions) :
    AnsweredLast sequence (reception :: receptions) := by
  cases receptions with
  | nil => exact answeredLast_singleton sequence reception
  | cons next receptions => exact List.forall_mem_append.2 ⟨hnone, h⟩

section

variable {σ : Type}

/-- Receptions, as the traffic of a request that waits. -/
def awaited (receptions : List Reception) : List Traffic :=
  receptions.map (.received .reply)

variable [Transport σ] (c : Channel (Tapped σ))

/-- What a receive gives, by its reception. Error replies that it brings have a number. -/
def Received.Brought (reception : Reception) : Except ChannelError Received → Prop
  | .ok (.messages ms) => reception.messages = ms ∧
      ∀ m ∈ ms, m.header.type = .error → m.errorCode?.isSome
  | .ok _ => reception.messages = []
  | .error e => ∃ errno, reception.arrival = .failure errno ∧ e = .transport errno

theorem receive_brings (wait : Wait) : Ends (receive wait) c fun result c' => ∃ reception,
    c'.transport.traffic = c.transport.traffic ++ [.received wait reception] ∧
    c'.sequence = c.sequence ∧ Received.Brought reception result := by
  rcases hreceive : Transport.receive c.transport.transport wait with ⟨reception, transport⟩
  simp only [receive, ends_bind, ends_get, ends_set, receive_tapped hreceive]
  cases harrival : reception.arrival with
  | nothing =>
      refine ⟨reception, rfl, rfl, ?_⟩
      simp only [Received.Brought, Reception.messages, harrival]
  | failure errno => exact ⟨reception, rfl, rfl, errno, harrival, rfl⟩
  | datagram data =>
      simp only
      cases hdecode : Datagram.decode data with
      | ok messages =>
          refine ⟨reception, rfl, rfl, ?_, fun m hm htype => ?_⟩
          · simp only [Reception.messages, harrival, hdecode]
          · exact Datagram.errorCode?_isSome_of_decode hdecode hm htype
      | error fault =>
          refine ⟨reception, rfl, rfl, ?_⟩
          simp only [Received.Brought, Reception.messages, harrival, hdecode]

theorem awaitReply_completes (type : MessageType) (sequence : UInt32) (polls : Nat)
    (reply : Option Message) : Ends (awaitReply type sequence polls reply) c fun result c' =>
    ∃ receptions, c'.transport.traffic = c.transport.traffic ++ awaited receptions ∧
      c'.sequence = c.sequence ∧ AnsweredLast sequence receptions ∧
      Completion type sequence reply polls receptions result := by
  induction polls generalizing c reply with
  | zero =>
      exact ⟨[], (List.append_nil _).symm, rfl, answeredLast_nil sequence,
        .expired rfl (List.forall_mem_nil _)⟩
  | succ polls ih =>
      rw [awaitReply, ends_bind]
      refine (receive_brings c .reply).mono ?_
      rintro result c' ⟨reception, htraffic, hsequence, hbrought⟩
      -- What comes after a reception without an answer.
      have hnext {ms : List Message} {d : Channel (Tapped σ)} (hms : reception.messages = ms)
          (hnone : ∀ m ∈ ms, ¬Answers sequence m) (htransport : d.transport = c'.transport)
          (hd : d.sequence = c'.sequence) :
          Ends (awaitReply type sequence polls ((lastReply sequence ms).or reply)) d
            fun result c'' => ∃ receptions,
              c''.transport.traffic = c.transport.traffic ++ awaited receptions ∧
              c''.sequence = c.sequence ∧ AnsweredLast sequence receptions ∧
              Completion type sequence reply (polls + 1) receptions result := by
        refine (ih d _).mono ?_
        rintro result c'' ⟨receptions, htraffic', hsequence', hlast, hcompletion⟩
        rw [← hms] at hnone hcompletion
        refine ⟨reception :: receptions, ?_, ?_, hlast.cons hnone, .cons hnone hcompletion⟩
        · rw [htraffic', htransport, htraffic, List.append_assoc]
          rfl
        · rw [hsequence', hd, hsequence]
      cases result with
      | error e =>
          obtain ⟨errno, harrival, rfl⟩ := hbrought
          obtain ⟨arrival, stop⟩ := reception
          obtain rfl : arrival = .failure errno := harrival
          exact ⟨[⟨.failure errno, stop⟩], htraffic, hsequence, answeredLast_singleton sequence _,
            @Completion.failed type sequence reply _ [] stop errno (List.forall_mem_nil _)⟩
      | ok received =>
          cases received with
          | nothing => exact hnext hbrought (List.forall_mem_nil _) rfl rfl
          | malformed fault =>
              simp only [note, ends_bind, ends_modify]
              exact hnext hbrought (List.forall_mem_nil _) rfl rfl
          | messages ms =>
              obtain ⟨hms, hcodes⟩ := hbrought
              have hdecoded : decoded [reception] = ms := (List.append_nil _).trans hms
              simp only [ends_bind, ends_modify]
              rcases sift_cases sequence reply hcodes with ⟨hcode, hnone, hreply⟩ |
                ⟨before, answer, code, hcode, hfirst, hanswer, hreply⟩
              · simp only [hcode, hreply]
                exact hnext hms hnone rfl rfl
              · simp only [hcode, hreply]
                rw [← hdecoded] at hfirst
                split
                · contradiction
                · rename_i hzero
                  obtain rfl := Option.some.inj hzero
                  exact ⟨[reception], htraffic, hsequence, answeredLast_singleton sequence _,
                    .acknowledged hfirst hanswer⟩
                · rename_i hne hsome
                  obtain rfl := Option.some.inj hsome
                  exact ⟨[reception], htraffic, hsequence, answeredLast_singleton sequence _,
                    .refused hfirst hanswer hne⟩

/-- The receives that a request may make once its datagram has been sent. -/
def allowance (data : Bytes) : Nat :=
  if c.options.replyTimeout = 0 then 0
  else Transport.receivesWithin (Transport.send c.transport data).2 c.options.replyTimeout

/-- What becomes of a request: it is sent, and if that does not fail it waits for its answer. -/
inductive Outcome (data : Bytes) (type : MessageType) (sequence : UInt32) :
    Option Errno → List Reception → Except ChannelError (Option Message) → Prop
  | unsent (errno : Errno) : Outcome data type sequence (some errno) [] (.error (.transport errno))
  | sent {receptions : List Reception} {result : Except ChannelError (Option Message)}
      (h : Completion type sequence none (c.allowance data) receptions result) :
      Outcome data type sequence none receptions result

variable {c} {data : Bytes} {type : MessageType} {sequence : UInt32} {failure : Option Errno}
  {receptions : List Reception}

theorem Outcome.of_ok {reply : Option Message}
    (h : Outcome c data type sequence failure receptions (.ok reply)) : ∃ before answer,
      FirstAnswer sequence (decoded receptions) before answer ∧ answer.errorCode? = some 0 ∧
      reply = lastReply sequence before := by
  cases h with
  | sent h =>
      cases h with
      | acknowledged hfirst hcode => exact ⟨_, _, hfirst, hcode, Option.or_none⟩

theorem Outcome.of_error {e : ChannelError}
    (h : Outcome c data type sequence failure receptions (.error e)) :
    (∃ before answer code, FirstAnswer sequence (decoded receptions) before answer ∧
      answer.errorCode? = some code ∧ code ≠ 0 ∧ e = .ofErrorCode code) ∨
    (∃ errno, e = .transport errno ∧ failure = some errno ∧ receptions = []) ∨
    (∃ errno front stop, e = .transport errno ∧ receptions = front ++ [⟨.failure errno, stop⟩] ∧
      ∀ m ∈ decoded front, ¬Answers sequence m) ∨
    (e = .noReply type sequence ∧ receptions.length = c.allowance data ∧
      ∀ m ∈ decoded receptions, ¬Answers sequence m) := by
  cases h with
  | unsent errno => exact .inr (.inl ⟨errno, rfl, rfl, rfl⟩)
  | sent h =>
      cases h with
      | refused hfirst hcode hne => exact .inl ⟨_, _, _, hfirst, hcode, hne, rfl⟩
      | failed hnone => exact .inr (.inr (.inl ⟨_, _, _, rfl, rfl, hnone⟩))
      | expired hlength hnone => exact .inr (.inr (.inr ⟨rfl, hlength, hnone⟩))

variable (c)

theorem request_answered (type : MessageType) (payload : Bytes) :
    Ends (request type payload) c fun result c' => ∃ failure receptions,
      c'.transport.traffic = c.transport.traffic ++ .sent (Datagram.encode type
        (requestFlag ||| ackFlag) (nextSequence c.sequence) payload) failure ::
          awaited receptions ∧
      c'.sequence = nextSequence c.sequence ∧
      AnsweredLast (nextSequence c.sequence) receptions ∧
      Outcome c (Datagram.encode type (requestFlag ||| ackFlag) (nextSequence c.sequence) payload)
        type (nextSequence c.sequence) failure receptions result := by
  rcases hsend : Transport.send c.transport.transport (Datagram.encode type
    (requestFlag ||| ackFlag) (nextSequence c.sequence) payload) with ⟨failure, transport⟩
  simp only [request, ends_bind, ends_get, ends_set, send_tapped hsend]
  cases failure with
  | some errno => exact ⟨some errno, [], rfl, rfl, answeredLast_nil _, .unsent errno⟩
  | none =>
      simp only [note, ends_bind, ends_modify]
      refine (awaitReply_completes _ type _ _ none).mono ?_
      rintro result c' ⟨receptions, htraffic, hsequence, hlast, hcompletion⟩
      refine ⟨none, receptions, ?_, hsequence, hlast, .sent ?_⟩
      · rw [htraffic, List.append_assoc]
        rfl
      · rw [allowance, send_tapped hsend]
        exact hcompletion

theorem request_completes (type : MessageType) (payload : Bytes) :
    Ends (request type payload) c fun result c' => ∃ failure receptions,
      c'.transport.traffic = c.transport.traffic ++ .sent (Datagram.encode type
        (requestFlag ||| ackFlag) (nextSequence c.sequence) payload) failure ::
          awaited receptions ∧
      c'.sequence = nextSequence c.sequence ∧
      Outcome c (Datagram.encode type (requestFlag ||| ackFlag) (nextSequence c.sequence) payload)
        type (nextSequence c.sequence) failure receptions result := by
  refine (request_answered c type payload).mono ?_
  rintro result c' ⟨failure, receptions, htraffic, hsequence, -, houtcome⟩
  exact ⟨failure, receptions, htraffic, hsequence, houtcome⟩

end

/-! ### Numbers in a run -/

section

variable {σ : Type}

/-- The datagrams that were sent, whether that failed or not, oldest first. -/
def sentData (traffic : List Traffic) : List Bytes :=
  traffic.filterMap fun
    | .sent data _ => some data
    | .received _ _ => none

theorem sentData_append (traffic more : List Traffic) :
    sentData (traffic ++ more) = sentData traffic ++ sentData more :=
  List.filterMap_append

theorem sentData_received (wait : Wait) (receptions : List Reception) :
    sentData (receptions.map (.received wait)) = [] := by
  rw [sentData, List.filterMap_map, List.filterMap_eq_nil_iff]
  intro reception _
  rfl

theorem sentData_request (traffic : List Traffic) (data : Bytes) (failure : Option Errno)
    (receptions : List Reception) :
    sentData (traffic ++ .sent data failure :: awaited receptions) =
      sentData traffic ++ [data] := by
  rw [sentData_append]
  exact congrArg (_ ++ _ :: ·) (sentData_received _ receptions)

/-- All datagrams sent so far are requests, numbered in order, and the channel has kept the number
of the last one. -/
structure Numbered (c : Channel (Tapped σ)) : Prop where
  last : c.sequence = lastNumber (sentData c.transport.traffic).length
  sent : ∀ i data, (sentData c.transport.traffic)[i]? = some data → ∃ type payload,
    data = Datagram.encode type (requestFlag ||| ackFlag) (requestNumber (i + 1)) payload

theorem Numbered.exists_getElem? {c : Channel (Tapped σ)} (h : Numbered c) {i : Nat}
    (hi : i < (sentData c.transport.traffic).length) : ∃ type payload,
      (sentData c.transport.traffic)[i]? =
        some (Datagram.encode type (requestFlag ||| ackFlag) (requestNumber (i + 1)) payload) := by
  have hget := List.getElem?_eq_getElem hi
  obtain ⟨type, payload, hdata⟩ := h.sent i _ hget
  exact ⟨type, payload, hget.trans (congrArg some hdata)⟩

theorem Numbered.congr {c c' : Channel (Tapped σ)} (h : Numbered c)
    (hsent : sentData c'.transport.traffic = sentData c.transport.traffic)
    (hsequence : c'.sequence = c.sequence) : Numbered c' where
  last := by rw [hsequence, hsent, h.last]
  sent := by rw [hsent]; exact h.sent

/-- The next request is numbered next, and nothing else is sent. -/
theorem Numbered.snoc {c c' : Channel (Tapped σ)} (h : Numbered c) {type : MessageType}
    {payload : Bytes} (hsent : sentData c'.transport.traffic = sentData c.transport.traffic ++
      [Datagram.encode type (requestFlag ||| ackFlag) (nextSequence c.sequence) payload])
    (hsequence : c'.sequence = nextSequence c.sequence) : Numbered c' where
  last := by
    rw [hsequence, h.last, nextSequence_lastNumber, hsent, List.length_append]
    rfl
  sent := by
    intro i data hdata
    rw [hsent] at hdata
    by_cases hi : i < (sentData c.transport.traffic).length
    · rw [List.getElem?_append_left hi] at hdata
      exact h.sent i data hdata
    · have hle := Nat.le_of_not_lt hi
      rw [List.getElem?_append_right hle, List.getElem?_singleton] at hdata
      split at hdata
      · rename_i hzero
        obtain rfl := Nat.le_antisymm hle (Nat.sub_eq_zero_iff_le.1 hzero)
        refine ⟨type, payload, (Option.some.inj hdata).symm.trans ?_⟩
        rw [h.last, nextSequence_lastNumber]
      · cases hdata

section

variable [Transport σ] {c : Channel (Tapped σ)}

theorem receive_numbered (h : Numbered c) (wait : Wait) :
    Ends (receive wait) c fun _ c' => Numbered c' := by
  refine (receive_brings c wait).mono ?_
  rintro _ c' ⟨reception, htraffic, hsequence, -⟩
  refine h.congr ?_ hsequence
  rw [htraffic, sentData_append]
  exact List.append_nil _

theorem request_numbered (h : Numbered c) (type : MessageType) (payload : Bytes) :
    Ends (request type payload) c fun _ c' => Numbered c' := by
  refine (request_completes c type payload).mono ?_
  rintro _ c' ⟨failure, receptions, htraffic, hsequence, -⟩
  exact h.snoc (htraffic ▸ sentData_request _ _ _ _) hsequence

theorem task_numbered (h : Numbered c) (op : Operation) :
    Ends op.task c fun _ c' => Numbered c' := by
  refine op.ends_task ?_ (request_numbered h) fun c' log h' => h'.congr rfl rfl
  intro mode polls _
  refine receiveEvent_keeps (fun c wait (h : Numbered c) => receive_numbered h wait) ?_ ?_ c h
    mode polls
  · exact fun c pending h => h.congr rfl rfl
  · exact fun c accumulator h => h.congr rfl rfl

theorem run_numbered (transport : σ) (options : Options) (ops : List Operation) :
    Numbered (run (tapped { transport, options }) ops).channel := by
  have hfresh : Numbered (tapped { transport, options } : Channel (Tapped σ)) :=
    ⟨rfl, fun i data hdata => nomatch hdata⟩
  have hstep (c : Channel (Tapped σ)) (op : Operation) (h : Numbered c) :
      Ends op.task c fun _ c' => Numbered c' := task_numbered h op
  exact run_keeps hstep hfresh ops

end

end

/-- A request is completed by its own answer only. The requests of a channel are numbered in order
and carry the flags of a request that asks for an acknowledgement; numbers are never zero, and come
again after a round only. Whatever the operations before it were, a request that succeeds has
received an acknowledgement of its number before any other error reply with its number, and gives
the last reply with its number before that; one that fails has received an error reply with its
number and gives what the first of them means, or has failed to send or to receive, or has received
no error reply with its number in the receives that it may make. The transport is tapped for its
traffic, which changes nothing. -/
theorem request_completed {σ : Type} [Transport σ] (transport : σ) (options : Options)
    (ops : List Operation) (type : MessageType) (payload : Bytes) :
    let c := (run (tapped { transport, options }) ops).channel
    let n := (sentData c.transport.traffic).length + 1
    let data := Datagram.encode type (requestFlag ||| ackFlag) (requestNumber n) payload
    let result := (outcomeOf (request type payload) c).1
    let c' := (outcomeOf (request type payload) c).2
    outcomeOf (request type payload) (run { transport, options } ops).channel =
      (result, c'.untapped) ∧
    (∀ i < n, ∃ type payload, (sentData c'.transport.traffic)[i]? =
      some (Datagram.encode type (requestFlag ||| ackFlag) (requestNumber (i + 1)) payload)) ∧
    requestNumber n ≠ 0 ∧
    (∀ m, 0 < m → m < n → n - m < UInt32.size - 1 → requestNumber m ≠ requestNumber n) ∧
    ∃ failure receptions,
      c'.transport.traffic = c.transport.traffic ++ .sent data failure :: awaited receptions ∧
      (∀ reply, result = .ok reply → ∃ before answer,
        FirstAnswer (requestNumber n) (decoded receptions) before answer ∧
        answer.errorCode? = some 0 ∧ reply = lastReply (requestNumber n) before) ∧
      (∀ e, result = .error e →
        (∃ before answer code, FirstAnswer (requestNumber n) (decoded receptions) before answer ∧
          answer.errorCode? = some code ∧ code ≠ 0 ∧ e = .ofErrorCode code) ∨
        (∃ errno, e = .transport errno ∧ failure = some errno ∧ receptions = []) ∨
        (∃ errno front stop, e = .transport errno ∧
          receptions = front ++ [⟨.failure errno, stop⟩] ∧
          ∀ m ∈ decoded front, ¬Answers (requestNumber n) m) ∨
        (e = .noReply type (requestNumber n) ∧ receptions.length = c.allowance data ∧
          ∀ m ∈ decoded receptions, ¬Answers (requestNumber n) m)) := by
  intro c n data result c'
  have hnumbered := run_numbered transport options ops
  have hnext : nextSequence c.sequence = requestNumber n := by
    rw [hnumbered.last, nextSequence_lastNumber]
  have hnumbered' := ends_iff.1 (request_numbered hnumbered type payload)
  obtain ⟨failure, receptions, htraffic, -, houtcome⟩ :=
    ends_iff.1 (request_completes c type payload)
  rw [hnext] at htraffic houtcome
  have houtcome : Outcome c data type (requestNumber n) failure receptions result := houtcome
  refine ⟨?_, fun i hi => ?_, requestNumber_ne_zero n, fun m => requestNumber_ne, failure,
    receptions, htraffic, fun reply hreply => ?_, fun e he => ?_⟩
  · have hrun := congrArg Progress.channel (run_tapped { transport, options } ops)
    rw [← hrun]
    exact (request_mirrors c type payload).outcomeOf_eq
  · refine hnumbered'.exists_getElem? (hi.trans_eq ?_)
    rw [htraffic, sentData_request, List.length_append]
    rfl
  · exact Outcome.of_ok (hreply ▸ houtcome)
  · exact Outcome.of_error (he ▸ houtcome)

/-- The first request fails. What arrives for the second one is the acknowledgement of the first,
then a record, and then its own reply and acknowledgement in one datagram. -/
def lateAnswer : Script where
  items := [
    .failure .notPermitted,
    .datagram (Datagram.encode .error 0 1 [0, 0, 0, 0]),
    .datagram (Datagram.encode .syscall 0 0 [0x61]),
    .datagram (Datagram.encode .getStatus 0 2 [0x62] ++ Datagram.encode .error 0 2 [0, 0, 0, 0])]

theorem request_completed_lateAnswer :
    (outcomeOf (request .getStatus [])
        (run { transport := lateAnswer } [.setEnabled true]).channel).1 =
      .ok (some (Datagram.request .getStatus 0 2 [0x62])) ∧
    ∃ receptions before answer, FirstAnswer 2 (decoded receptions) before answer ∧
      answer.errorCode? = some 0 ∧
      lastReply 2 before = some (Datagram.request .getStatus 0 2 [0x62]) := by
  obtain ⟨hrun, -, -, -, failure, receptions, -, hok, -⟩ :=
    request_completed lateAnswer {} [.setEnabled true] .getStatus []
  have hresult : (outcomeOf (request .getStatus [])
      (run { transport := lateAnswer } [.setEnabled true]).channel).1 =
      .ok (some (Datagram.request .getStatus 0 2 [0x62])) := by decide +kernel
  have hnumber : requestNumber ((sentData (run (tapped { transport := lateAnswer })
      [.setEnabled true]).channel.transport.traffic).length + 1) = 2 := by decide +kernel
  have htapped := hresult
  rw [hrun] at htapped
  obtain ⟨before, answer, hfirst, hcode, hreply⟩ := hok _ htapped
  exact ⟨hresult, receptions, before, answer, hnumber ▸ hfirst, hcode, hnumber ▸ hreply.symm⟩

end Channel

end LinuxAudit
