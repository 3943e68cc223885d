import Mathlib
import LinuxAudit.Proofs.Channel.Operation
import LinuxAudit.Proofs.Netlink.Framing

/-! What an operation does to the stream of a channel. The traffic of a channel is read as signals;
a waiting request consumes some of the messages among them and the others are `kept`. A request puts
what is kept behind what is pending, `request_adds`, and a receive takes a message from the front,
`nextMessage_moved`. -/

namespace LinuxAudit.Channel

/-! ### Signals -/

/-- What the traffic of a channel says, message by message. -/
inductive Signal
  /-- A request with a number was sent. -/
  | asked (sequence : UInt32)
  /-- A message arrived while a request waited. -/
  | answered (message : Message)
  /-- A message arrived while no request waited. -/
  | streamed (message : Message)
  /-- A datagram arrived that cannot be read. -/
  | garbled
deriving DecidableEq

/-- A message that arrived in a receive. Only a request waits for a reply. -/
def Signal.arrived (wait : Wait) (m : Message) : Signal :=
  if wait = .reply then .answered m else .streamed m

theorem Signal.arrived_ne_garbled (wait : Wait) (m : Message) : arrived wait m ≠ .garbled := by
  rw [arrived]
  split
  · exact Signal.noConfusion
  · exact Signal.noConfusion

theorem Signal.arrived_eq_streamed {wait : Wait} (h : wait ≠ .reply) :
    Signal.arrived wait = .streamed := by
  funext m
  rw [arrived, if_neg h]

end Channel

namespace Traffic

open Channel

/-- The number of a request is read off its header. -/
def signals : Traffic → List Signal
  | .sent data _ =>
    match Header.decode? data with
    | some (header, _) => [.asked header.sequence]
    | none => []
  | .received wait reception =>
    match reception.arrival with
    | .datagram data =>
      match Datagram.decode data with
      | .ok messages => messages.map (Signal.arrived wait)
      | .error _ => [.garbled]
    | _ => []

theorem signals_sent (type : MessageType) (flags : UInt16) (sequence : UInt32) (payload : Bytes)
    (failure : Option Errno) :
    (sent (Datagram.encode type flags sequence payload) failure).signals = [.asked sequence] := by
  have hheader := Datagram.header_encode_append type flags sequence payload []
  rw [List.append_nil] at hheader
  simp only [signals, hheader]
  rfl

end Traffic

namespace Channel

/-- What the traffic so far says. -/
def signals {σ : Type} (c : Channel (Tapped σ)) : List Signal :=
  c.transport.traffic.flatMap Traffic.signals

/-- The messages that no request consumes. A request waits from when it was sent until the first
error reply with its number. It consumes what has its number, and the error replies to others. -/
def kept : Option UInt32 → List Signal → List Message
  | _, [] => []
  | _, .asked sequence :: rest => kept (some sequence) rest
  | waiting, .streamed m :: rest => m :: kept waiting rest
  | waiting, .garbled :: rest => kept waiting rest
  | none, .answered m :: rest => m :: kept none rest
  | some sequence, .answered m :: rest =>
    if m.header.sequence = sequence then
      kept (if m.header.type = .error then none else some sequence) rest
    else if m.header.type = .error then kept (some sequence) rest
    else m :: kept (some sequence) rest

/-- The request whose answer is to come after a signal. -/
def waitingAfter (waiting : Option UInt32) : Signal → Option UInt32
  | .asked sequence => some sequence
  | .answered m =>
    if waiting = some m.header.sequence ∧ m.header.type = .error then none else waiting
  | _ => waiting

theorem kept_cons (waiting : Option UInt32) (s : Signal) (signals : List Signal) :
    kept waiting (s :: signals) =
      kept waiting [s] ++ kept (waitingAfter waiting s) signals := by
  cases s with
  | asked sequence => rfl
  | streamed m => rfl
  | garbled => rfl
  | answered m =>
      cases waiting with
      | none => rfl
      | some sequence =>
          by_cases hown : m.header.sequence = sequence
          · by_cases herror : m.header.type = .error
            · simp only [kept, waitingAfter, hown, herror, if_true, and_self, List.nil_append]
            · simp only [kept, waitingAfter, hown, herror, if_true, if_false, and_false,
                List.nil_append]
          · have hwaiting : ¬(some sequence = some m.header.sequence ∧
                m.header.type = .error) := fun h => hown (Option.some.inj h.1).symm
            by_cases herror : m.header.type = .error
            · simp only [kept, waitingAfter, if_neg hown, if_pos herror, if_neg hwaiting,
                List.nil_append]
            · simp only [kept, waitingAfter, if_neg hown, if_neg herror, if_neg hwaiting,
                List.singleton_append]

theorem kept_append (waiting : Option UInt32) (signals more : List Signal) :
    kept waiting (signals ++ more) =
      kept waiting signals ++ kept (signals.foldl waitingAfter waiting) more := by
  induction signals generalizing waiting with
  | nil => rfl
  | cons signal signals ih =>
      rw [List.cons_append, kept_cons, ih, kept_cons waiting signal signals, List.append_assoc,
        List.foldl_cons]

theorem kept_streamed (waiting : Option UInt32) (ms : List Message) (rest : List Signal) :
    kept waiting (ms.map .streamed ++ rest) = ms ++ kept waiting rest := by
  induction ms with
  | nil => rfl
  | cons m ms ih => rw [List.map_cons, List.cons_append, kept, ih, List.cons_append]

theorem kept_answered (ms : List Message) (rest : List Signal) :
    kept none (ms.map .answered ++ rest) = ms ++ kept none rest := by
  induction ms with
  | nil => rfl
  | cons m ms ih => rw [List.map_cons, List.cons_append, kept, ih, List.cons_append]

theorem errorCode?_eq_none_of_ne {m : Message} (h : m.header.type ≠ .error) :
    m.errorCode? = none := by
  rw [Message.errorCode?, if_neg h]

/-- Sorting the messages of a datagram keeps what the waiting request does not consume. -/
theorem kept_sift (sequence : UInt32) (reply : Option Message) {ms : List Message}
    (hms : ∀ m ∈ ms, m.header.type = .error → m.errorCode?.isSome) (rest : List Signal) :
    kept (some sequence) (ms.map .answered ++ rest) = (sift sequence reply ms).kept ++
      kept (if (sift sequence reply ms).code.isSome then none else some sequence) rest := by
  induction ms generalizing reply with
  | nil => rfl
  | cons m ms ih =>
      have ih reply := ih reply fun m' hm' => hms m' (List.mem_cons_of_mem m hm')
      simp only [List.map_cons, List.cons_append, kept, sift]
      by_cases hown : m.header.sequence = sequence
      · simp only [if_pos hown]
        by_cases herror : m.header.type = .error
        · obtain ⟨code, hcode⟩ := Option.isSome_iff_exists.1 (hms m List.mem_cons_self herror)
          simp only [if_pos herror, hcode, Option.isSome_some, if_true]
          exact kept_answered ms rest
        · simp only [if_neg herror, errorCode?_eq_none_of_ne herror]
          exact ih (some m)
      · simp only [if_neg hown]
        by_cases herror : m.header.type = .error
        · simp only [if_pos herror]
          exact ih reply
        · simp only [if_neg herror, ih reply, List.cons_append]

/-! ### Moves -/

section

variable {σ : Type}

/-- From one state to another a channel has seen some signals. One that is garbled drops the event
under way. -/
structure Moved (c c' : Channel (Tapped σ)) (new : List Signal) : Prop where
  signals : c'.signals = c.signals ++ new
  options : c'.options = c.options
  accumulator : c'.accumulator = if .garbled ∈ new then {} else c.accumulator

theorem Moved.refl (c : Channel (Tapped σ)) : Moved c c [] where
  signals := (List.append_nil _).symm
  options := rfl
  accumulator := by rw [if_neg List.not_mem_nil]

theorem Moved.trans {c c' c'' : Channel (Tapped σ)} {new more : List Signal} (h : Moved c c' new)
    (h' : Moved c' c'' more) : Moved c c'' (new ++ more) where
  signals := by rw [h'.signals, h.signals, List.append_assoc]
  options := h'.options.trans h.options
  accumulator := by
    rw [h'.accumulator, h.accumulator]
    by_cases hmore : Signal.garbled ∈ more
    · rw [if_pos hmore, if_pos (List.mem_append_right new hmore)]
    · rw [if_neg hmore]
      simp only [List.mem_append, hmore, or_false]

theorem Moved.records {c c' : Channel (Tapped σ)} {new : List Signal} (h : Moved c c' new) :
    c'.accumulator.records = if .garbled ∈ new then [] else c.accumulator.records := by
  rw [h.accumulator]
  split
  · rfl
  · rfl

/-- A move, of which nothing is seen but a new pending queue and log. -/
theorem Moved.congr {c c' c'' : Channel (Tapped σ)} {new : List Signal} (h : Moved c c' new)
    (htransport : c''.transport = c'.transport) (hoptions : c''.options = c'.options)
    (haccumulator : c''.accumulator = c'.accumulator) : Moved c c'' new where
  signals := by rw [Channel.signals, htransport]; exact h.signals
  options := hoptions.trans h.options
  accumulator := haccumulator.trans h.accumulator

/-- From one state to another a channel has put behind what is pending what is kept of the signals
that it has seen. -/
def Adds (c c' : Channel (Tapped σ)) : Prop :=
  ∃ new, Moved c c' new ∧ ∀ waiting, c'.pending = c.pending ++ kept waiting new

theorem Adds.logged {c c' : Channel (Tapped σ)} (h : Adds c c') (log : List Log.Entry) :
    Adds c { c' with log } := by
  obtain ⟨new, hmoved, hpending⟩ := h
  exact ⟨new, hmoved.congr rfl rfl rfl, hpending⟩

end

/-- What a receive brings, as signals. Error replies that it brings have a number. -/
def Received.Says (wait : Wait) : Except ChannelError Received → List Signal → Prop
  | .ok (.messages ms), new => new = ms.map (.arrived wait) ∧
      ∀ m ∈ ms, m.header.type = .error → m.errorCode?.isSome
  | .ok (.malformed _), new => new = [.garbled]
  | .ok .nothing, new => new = []
  | .error _, new => new = []

section

variable {σ : Type} [Transport σ] (c : Channel (Tapped σ))

theorem receive_moved (wait : Wait) : Ends (receive wait) c fun result c' =>
    ∃ new, Moved c c' new ∧ c'.pending = c.pending ∧ Received.Says wait result new := by
  rcases hreceive : Transport.receive c.transport.transport wait with ⟨reception, transport⟩
  have hsignals : (c.transport.traffic ++ [Traffic.received wait reception]).flatMap
      Traffic.signals = c.signals ++ (Traffic.received wait reception).signals := by
    rw [List.flatMap_append, List.flatMap_singleton]
    rfl
  simp only [receive, ends_bind, ends_get, ends_set, receive_tapped hreceive]
  cases harrival : reception.arrival with
  | nothing =>
      refine ⟨[], ⟨?_, rfl, rfl⟩, rfl, rfl⟩
      rw [signals, hsignals, Traffic.signals, harrival]
  | failure errno =>
      refine ⟨[], ⟨?_, rfl, rfl⟩, rfl, rfl⟩
      rw [signals, hsignals, Traffic.signals, harrival]
  | datagram data =>
      simp only
      cases hdecode : Datagram.decode data with
      | ok messages =>
          refine ⟨messages.map (.arrived wait), ⟨?_, rfl, ?_⟩, rfl, rfl, ?_⟩
          · rw [signals, hsignals]
            simp only [Traffic.signals, harrival, hdecode]
          · rw [if_neg]
            intro hmem
            obtain ⟨m, -, hm⟩ := List.mem_map.1 hmem
            exact Signal.arrived_ne_garbled wait m hm
          · intro m hm htype
            exact Datagram.errorCode?_isSome_of_decode hdecode hm htype
      | error fault =>
          refine ⟨[.garbled], ⟨?_, rfl, rfl⟩, rfl, rfl⟩
          rw [dropEvent, signals, hsignals]
          simp only [Traffic.signals, harrival, hdecode]

/-- While it waits, a request puts behind what is pending what it does not consume. -/
theorem awaitReply_moved (type : MessageType) (sequence : UInt32) (polls : Nat)
    (reply : Option Message) : Ends (awaitReply type sequence polls reply) c fun _ c' =>
    ∃ new, Moved c c' new ∧ c'.pending = c.pending ++ kept (some sequence) new := by
  induction polls generalizing c reply with
  | zero => exact ⟨[], .refl c, (List.append_nil _).symm⟩
  | succ polls ih =>
      -- What comes after a receive, once it is known what the signals seen so far keep.
      have hnext {c' : Channel (Tapped σ)} {new : List Signal} {front : List Message}
          (reply : Option Message) (hmoved : Moved c c' new)
          (hpending : c'.pending = c.pending ++ front)
          (hkept : ∀ more, kept (some sequence) (new ++ more) =
            front ++ kept (some sequence) more) :
          Ends (awaitReply type sequence polls reply) c' fun _ c'' =>
            ∃ new, Moved c c'' new ∧ c''.pending = c.pending ++ kept (some sequence) new := by
        refine (ih c' reply).mono ?_
        rintro _ c'' ⟨more, hmore, hpending'⟩
        refine ⟨new ++ more, hmoved.trans hmore, ?_⟩
        rw [hpending', hpending, hkept, List.append_assoc]
      rw [awaitReply, ends_bind]
      refine (receive_moved c .reply).mono ?_
      rintro result c' ⟨new, hmoved, hpending, hsays⟩
      cases result with
      | error e =>
          obtain rfl := hsays
          exact ⟨[], hmoved, hpending.trans (List.append_nil _).symm⟩
      | ok received =>
          cases received with
          | nothing =>
              obtain rfl := hsays
              exact hnext reply hmoved (hpending.trans (List.append_nil _).symm) fun _ => rfl
          | malformed fault =>
              obtain rfl := hsays
              simp only [note, ends_bind, ends_modify]
              exact hnext reply (hmoved.congr rfl rfl rfl)
                (hpending.trans (List.append_nil _).symm) fun _ => rfl
          | messages ms =>
              obtain ⟨rfl, hms⟩ := hsays
              have hkept := kept_sift sequence reply hms
              simp only [ends_bind, ends_modify]
              split
              · rename_i hcode
                simp only [hcode, Option.isSome_none] at hkept
                exact hnext _ (hmoved.congr rfl rfl rfl) (congrArg (· ++ _) hpending) hkept
              all_goals
                rename_i hcode
                have hdone := hkept []
                simp only [kept, List.append_nil] at hdone
                refine ⟨_, hmoved.congr rfl rfl rfl, (congrArg (· ++ _) hpending).trans ?_⟩
                rw [← hdone]
                rfl

theorem request_adds (type : MessageType) (payload : Bytes) :
    Ends (request type payload) c fun _ c' => Adds c c' := by
  rcases hsend : Transport.send c.transport.transport (Datagram.encode type
    (requestFlag ||| ackFlag) (nextSequence c.sequence) payload) with ⟨failure, transport⟩
  have hmoved {c' : Channel (Tapped σ)}
      (htransport : c'.transport = ⟨transport, c.transport.traffic ++ [.sent (Datagram.encode type
        (requestFlag ||| ackFlag) (nextSequence c.sequence) payload) failure]⟩)
      (hoptions : c'.options = c.options) (haccumulator : c'.accumulator = c.accumulator) :
      Moved c c' [.asked (nextSequence c.sequence)] := by
    refine ⟨?_, hoptions, haccumulator⟩
    rw [signals, htransport, List.flatMap_append, List.flatMap_singleton, Traffic.signals_sent]
    rfl
  simp only [request, ends_bind, ends_get, ends_set, send_tapped hsend]
  cases failure with
  | some errno =>
      exact ⟨_, hmoved rfl rfl rfl, fun waiting => (List.append_nil _).symm⟩
  | none =>
      simp only [note, ends_bind, ends_modify]
      refine (awaitReply_moved _ type _ _ none).mono ?_
      rintro _ c' ⟨new, hnew, hpending⟩
      refine ⟨[Signal.asked (nextSequence c.sequence)] ++ new, Moved.trans ?_ hnew,
        fun waiting => hpending⟩
      exact hmoved rfl rfl rfl

end

/-- What taking the next message does to what is pending: the oldest of what was pending and has
arrived is taken. A datagram that cannot be read is only met with nothing pending. -/
inductive Takes (before : List Message) :
    Except ChannelError (Option Message) → List Signal → List Message → Prop
  | message (m : Message) (ms after : List Message) (h : before ++ ms = m :: after) :
      Takes before (.ok (some m)) (ms.map .streamed) after
  | nothing (h : before = []) : Takes before (.ok none) [] []
  | garbled (fault : Malformation) (h : before = []) :
      Takes before (.error (.malformed fault)) [.garbled] []
  | failed (e : ChannelError) (h : before = []) : Takes before (.error e) [] []

theorem Takes.eq_or_eq {before after : List Message} {new : List Signal}
    {result : Except ChannelError (Option Message)} (h : Takes before result new after) :
    (∃ m ms, result.toOption.join = some m ∧ new = ms.map .streamed ∧ before ++ ms = m :: after) ∨
      (result.toOption.join = none ∧ before = [] ∧ after = [] ∧ (new = [] ∨ new = [.garbled])) := by
  cases h with
  | message m ms after h => exact .inl ⟨m, ms, rfl, rfl, h⟩
  | nothing h => exact .inr ⟨rfl, h, rfl, .inl rfl⟩
  | garbled fault h => exact .inr ⟨rfl, h, rfl, .inr rfl⟩
  | failed e h => exact .inr ⟨rfl, h, rfl, .inl rfl⟩

theorem Takes.append_kept {before after : List Message} {new : List Signal}
    {result : Except ChannelError (Option Message)} (h : Takes before result new after)
    (waiting : Option UInt32) :
    before ++ kept waiting new = result.toOption.join.toList ++ after := by
  cases h with
  | message m ms after h =>
      have hkept := kept_streamed waiting ms []
      rw [List.append_nil] at hkept
      rw [hkept, kept, List.append_nil, h]
      rfl
  | nothing h => rw [h, kept]; rfl
  | garbled fault h => rw [h, kept, kept]; rfl
  | failed e h => rw [h, kept]; rfl

theorem Takes.arrived {ms after : List Message} {result : Except ChannelError (Option Message)}
    {more : List Signal} (h : Takes ms result more after) :
    Takes [] result (ms.map .streamed ++ more) after := by
  cases h with
  | message m ms' after h =>
      rw [← List.map_append]
      exact .message m (ms ++ ms') after h
  | nothing h =>
      rw [h]
      exact .nothing rfl
  | garbled fault h =>
      rw [h]
      exact .garbled fault rfl
  | failed e h =>
      rw [h]
      exact .failed e rfl

section

variable {σ : Type} [Transport σ] (c : Channel (Tapped σ))

theorem nextMessage_moved (mode : ReceiveMode) (polls : Nat) :
    Ends (nextMessage mode polls) c fun result c' =>
      ∃ new, Moved c c' new ∧ Takes c.pending result new c'.pending := by
  induction polls generalizing c with
  | zero =>
      rw [nextMessage, ends_bind, ends_get]
      dsimp only
      cases hpending : c.pending with
      | cons m pending =>
          exact ⟨[], (Moved.refl c).congr rfl rfl rfl, .message m [] pending (List.append_nil _)⟩
      | nil =>
          have hfail (e : ChannelError) :
              ∃ new, Moved c c new ∧ Takes [] (.error e) new c.pending := by
            rw [hpending]
            exact ⟨[], .refl c, .failed e rfl⟩
          simp only [ends_ite, ends_bind, ends_throw]
          exact ⟨fun _ => hfail .interrupted, fun _ => hfail .exhausted⟩
  | succ polls ih =>
      rw [nextMessage, ends_bind, ends_get]
      dsimp only
      cases hpending : c.pending with
      | cons m pending =>
          exact ⟨[], (Moved.refl c).congr rfl rfl rfl, .message m [] pending (List.append_nil _)⟩
      | nil =>
          simp only [ends_ite, ends_bind, ends_throw]
          refine ⟨fun _ => ⟨[], .refl c, hpending ▸ .failed _ rfl⟩, fun _ => ?_⟩
          refine (receive_moved c _).mono ?_
          rintro result c' ⟨new, hmoved, hpending', hsays⟩
          have hnil : c'.pending = [] := hpending'.trans hpending
          cases result with
          | error e =>
              obtain rfl := hsays
              exact ⟨[], hmoved, hnil ▸ .failed e rfl⟩
          | ok received =>
              cases received with
              | malformed fault =>
                  obtain rfl := hsays
                  exact ⟨_, hmoved, hnil ▸ .garbled fault rfl⟩
              | nothing =>
                  obtain rfl := hsays
                  simp only [ends_ite]
                  refine ⟨fun _ => (ih c').mono ?_, fun _ => ⟨[], hmoved, hnil ▸ .nothing rfl⟩⟩
                  rintro result c'' ⟨more, hmore, htakes⟩
                  exact ⟨more, hmoved.trans hmore, hnil ▸ htakes⟩
              | messages ms =>
                  obtain ⟨rfl, -⟩ := hsays
                  simp only [ends_bind, ends_modify]
                  refine (ih _).mono ?_
                  rintro result c'' ⟨more, hmore, htakes⟩
                  rw [hnil, List.nil_append] at htakes
                  rw [Signal.arrived_eq_streamed (by split <;> decide)] at hmoved
                  refine ⟨ms.map .streamed ++ more, Moved.trans ?_ hmore, htakes.arrived⟩
                  exact hmoved.congr rfl rfl rfl

end

end LinuxAudit.Channel
