import Mathlib
import LinuxAudit.Channel.Basic
import LinuxAudit.Proofs.Outcome

/-! Runs of a channel. A run performs operations one after the other, whether the ones before them
failed or not. Its traffic is read off a tapped transport, which `run_tapped` shows to change
nothing else. -/

namespace LinuxAudit.Channel

/-- The operations on a channel as data. A receive gives up after so many receives. -/
inductive Operation
  | receiveEvent (mode : ReceiveMode) (polls : Nat)
  | installRule (rule : Rule) (list : FilterList) (action : Action)
  | deleteRule (rule : Rule) (list : FilterList) (action : Action)
  | setEnabled (enabled : Bool)
  | registerListener (pid : UInt32)
  | status

def Operation.isReceive : Operation → Bool
  | receiveEvent _ _ => true
  | _ => false

section

variable {σ : Type} [Transport σ]

/-- An operation carried out. Only a receive gives an event. -/
def Operation.task : Operation → Task σ (Option Event)
  | receiveEvent mode polls => Channel.receiveEvent polls mode
  | installRule rule list action => do
    Channel.installRule rule list action
    return none
  | deleteRule rule list action => do
    Channel.deleteRule rule list action
    return none
  | setEnabled enabled => do
    Channel.setEnabled enabled
    return none
  | registerListener pid => do
    Channel.registerListener pid
    return none
  | status => do
    let _ ← Channel.status
    return none

/-- The message that an operation takes from the stream and dispatches. -/
def Operation.taken? (c : Channel σ) : Operation → Option Message
  | receiveEvent mode polls =>
    match (nextMessage mode polls).run c with
    | .ok message _ => message
    | .error _ _ => none
  | _ => none

/-- What an operation leaves behind, and the event that it gives. -/
def Operation.outcome (c : Channel σ) (op : Operation) : Option Event × Channel σ :=
  match op.task.run c with
  | .ok event c => (event, c)
  | .error _ c => (none, c)

theorem Operation.outcome_of_ends {c : Channel σ} {op : Operation} {inv : Channel σ → Prop}
    (h : Ends op.task c fun _ c' => inv c') : inv (op.outcome c).2 := by
  rw [outcome]
  cases hrun : op.task.run c with
  | ok event c' => exact h.ok hrun
  | error e c' => exact h.error hrun

/-- What a receive does, by what the transport gives it. -/
theorem run_receive {c : Channel σ} {wait : Wait} {reception : Reception} {transport : σ}
    (h : Transport.receive c.transport wait = (reception, transport)) : (receive wait).run c =
      let c' := { c with transport, stopped := c.stopped || reception.stop }
      match reception.arrival with
      | .nothing => .ok .nothing c'
      | .failure errno => .error (.transport errno) c'
      | .datagram data =>
        match Datagram.decode data with
        | .ok messages => .ok (.messages messages) c'
        | .error fault => .ok (.malformed fault) c'.dropEvent := by
  rw [receive, run_bind, run_get]
  simp only [h, run_bind]
  cases reception.arrival with
  | nothing => rfl
  | failure errno => rfl
  | datagram data =>
      simp only
      cases Datagram.decode data with
      | ok messages => rfl
      | error fault => rfl

theorem run_nextMessage_of_pending {c : Channel σ} {m : Message} {pending : List Message}
    (hpending : c.pending = m :: pending) (mode : ReceiveMode) (polls : Nat) :
    (nextMessage mode polls).run c = .ok (some m) { c with pending } := by
  cases polls with
  | zero =>
      rw [nextMessage, run_bind, run_get]
      simp only [hpending]
      rfl
  | succ polls =>
      rw [nextMessage, run_bind, run_get]
      simp only [hpending]
      rfl

/-- With nothing pending, and unless a blocking receive is to stop, the next message is received. -/
theorem run_nextMessage_of_idle {c : Channel σ} {mode : ReceiveMode} (hpending : c.pending = [])
    (hgoes : ¬(mode = .blocking ∧ c.stopped = true)) (polls : Nat) :
    (nextMessage mode (polls + 1)).run c =
      match (receive (if mode = .blocking then .poll else .none)).run c with
      | .ok (.messages ms) c' =>
        (nextMessage mode polls).run { c' with pending := c'.pending ++ ms }
      | .ok (.malformed fault) c' => .error (.malformed fault) c'
      | .ok .nothing c' =>
        if mode = .blocking then (nextMessage mode polls).run c' else .ok none c'
      | .error e c' => .error e c' := by
  rw [nextMessage, run_bind, run_get]
  simp only [hpending, if_neg hgoes]
  rw [run_bind]
  cases hreceive : (receive (if mode = .blocking then .poll else .none)).run c with
  | ok received c' =>
      cases received with
      | messages ms => rfl
      | malformed fault => rfl
      | nothing =>
          simp only
          split <;> rfl
  | error e c' => rfl

/-! ### What operations keep -/

section

variable {inv : Channel σ → Prop}
  (hreceive : ∀ c wait, inv c → Ends (receive wait) c fun _ c' => inv c')
  (hpending : ∀ c pending, inv c → inv { c with pending })

include hreceive hpending in
/-- What receptions keep, and what does not look at what is pending, is kept by taking messages. -/
theorem nextMessage_keeps (c : Channel σ) (h : inv c) (mode : ReceiveMode) (polls : Nat) :
    Ends (nextMessage mode polls) c fun _ c' => inv c' := by
  induction polls generalizing c with
  | zero =>
      rw [nextMessage, ends_bind, ends_get]
      dsimp only
      cases c.pending with
      | cons m pending => exact hpending c pending h
      | nil =>
          simp only [ends_ite, ends_bind, ends_throw]
          exact ⟨fun _ => h, fun _ => h⟩
  | succ polls ih =>
      rw [nextMessage, ends_bind, ends_get]
      dsimp only
      cases c.pending with
      | cons m pending => exact hpending c pending h
      | nil =>
          refine ends_ite.2 ⟨fun _ => h, fun _ => (hreceive c _ h).keep fun received c' h' => ?_⟩
          cases received with
          | messages ms => exact ih _ (hpending c' _ h')
          | malformed fault => exact h'
          | nothing => exact ends_ite.2 ⟨fun _ => ih c' h', fun _ => h'⟩

include hreceive hpending in
theorem receiveEvent_keeps (haccumulator : ∀ c accumulator, inv c → inv { c with accumulator })
    (c : Channel σ) (h : inv c) (mode : ReceiveMode) (polls : Nat) :
    Ends (receiveEvent polls mode) c fun _ c' => inv c' := by
  refine (nextMessage_keeps hreceive hpending c h mode polls).keep fun message c' h' => ?_
  cases message with
  | none => exact h'
  | some m => exact haccumulator c' _ h'

end

/-- What holds of the channel after requests and after receives holds after every operation, if the
log does not matter. -/
theorem Operation.ends_task {c : Channel σ} {inv : Channel σ → Prop} {op : Operation}
    (hreceive : ∀ mode polls, op = .receiveEvent mode polls →
      Ends (Channel.receiveEvent polls mode) c fun _ c' => inv c')
    (hrequest : ∀ type payload, Ends (request type payload) c fun _ c' => inv c')
    (hlog : ∀ c' log, inv c' → inv { c' with log }) : Ends op.task c fun _ c' => inv c' := by
  have hnote (level : Log.Level) (text : String) (c' : Channel σ) (h : inv c') :
      Ends (note level text) c' fun _ c'' => inv c'' := hlog c' _ h
  cases op with
  | receiveEvent mode polls => exact hreceive mode polls rfl
  | installRule rule list action =>
      exact ((hrequest _ _).keep fun _ => hnote _ _).keep fun _ _ h => h
  | deleteRule rule list action =>
      exact ((hrequest _ _).keep fun _ => hnote _ _).keep fun _ _ h => h
  | setEnabled enabled =>
      exact ((hrequest _ _).keep fun _ => hnote _ _).keep fun _ _ h => h
  | registerListener pid =>
      exact ((hrequest _ _).keep fun _ => hnote _ _).keep fun _ _ h => h
  | status =>
      refine ((hrequest _ _).keep fun reply c' h => ?_).keep fun _ _ h => h
      cases reply with
      | none => exact h
      | some reply =>
          simp only
          cases Status.decode reply.payload with
          | ok status => exact h
          | error fault => exact h

/-- How far a run has come. -/
structure Progress (σ : Type) where
  channel : Channel σ
  dispatched : List Message := []
  events : List Event := []

def Progress.step (p : Progress σ) (op : Operation) : Progress σ where
  channel := (op.outcome p.channel).2
  dispatched := p.dispatched ++ (op.taken? p.channel).toList
  events := p.events ++ (op.outcome p.channel).1.toList

/-- Performs operations one after the other. -/
def run (c : Channel σ) (ops : List Operation) : Progress σ :=
  ops.foldl Progress.step { channel := c }

/-- What every operation keeps is kept by a run. -/
theorem run_keeps {inv : Channel σ → Prop}
    (hstep : ∀ c (op : Operation), inv c → Ends op.task c fun _ c' => inv c') {c : Channel σ}
    (h : inv c) (ops : List Operation) : inv (run c ops).channel := by
  have hfold (p : Progress σ) (hp : inv p.channel) :
      inv (ops.foldl Progress.step p).channel := by
    induction ops generalizing p with
    | nil => exact hp
    | cons op ops ih => exact ih _ (Operation.outcome_of_ends (hstep p.channel op hp))
  exact hfold _ h

end

/-! ### Tapped channels -/

section

variable {σ : Type}

/-- The same channel with a record of its traffic, which is empty so far. -/
def tapped (c : Channel σ) : Channel (Tapped σ) :=
  { c with transport := { transport := c.transport } }

/-- The channel without the record of its traffic. -/
def untapped (c : Channel (Tapped σ)) : Channel σ :=
  { c with transport := c.transport.transport }

end

section

variable {σ α β : Type} {c : Channel (Tapped σ)}

/-- From a tapped channel a task does what another does from the channel itself. -/
def Mirrors (c : Channel (Tapped σ)) (task : EStateM ChannelError (Channel (Tapped σ)) α)
    (task' : EStateM ChannelError (Channel σ) α) : Prop :=
  Ends task c fun result c' =>
    Ends task' c.untapped fun result' d => result' = result ∧ d = c'.untapped

variable {task : EStateM ChannelError (Channel (Tapped σ)) α}
  {task' : EStateM ChannelError (Channel σ) α}

theorem Mirrors.run_eq (h : Mirrors c task task') : task'.run c.untapped =
    match task.run c with
    | .ok a c' => .ok a c'.untapped
    | .error e c' => .error e c'.untapped := by
  cases hrun : task.run c with
  | ok a c' =>
      have h' := Ends.ok h hrun
      cases hrun' : task'.run c.untapped with
      | ok a' d =>
          obtain ⟨ha, rfl⟩ := h'.ok hrun'
          rw [Except.ok.inj ha]
      | error e' d => cases (h'.error hrun').1
  | error e c' =>
      have h' := Ends.error h hrun
      cases hrun' : task'.run c.untapped with
      | ok a' d => cases (h'.ok hrun').1
      | error e' d =>
          obtain ⟨he, rfl⟩ := h'.error hrun'
          rw [Except.error.inj he]

theorem Mirrors.outcomeOf_eq (h : Mirrors c task task') : outcomeOf task' c.untapped =
    ((outcomeOf task c).1, (outcomeOf task c).2.untapped) := by
  rw [outcomeOf, h.run_eq, outcomeOf]
  cases task.run c with
  | ok a c' => rfl
  | error e c' => rfl

theorem mirrors_pure (a : α) : Mirrors c (pure a) (pure a) := ⟨rfl, rfl⟩

theorem mirrors_throw (e : ChannelError) :
    Mirrors c (throw e : EStateM ChannelError (Channel (Tapped σ)) α) (throw e) := ⟨rfl, rfl⟩

theorem mirrors_throw_bind (e : ChannelError)
    (f : α → EStateM ChannelError (Channel (Tapped σ)) β)
    (f' : α → EStateM ChannelError (Channel σ) β) :
    Mirrors c (throw e >>= f) (throw e >>= f') := ⟨rfl, rfl⟩

theorem mirrors_set (d : Channel (Tapped σ)) : Mirrors c (set d) (set d.untapped) := ⟨rfl, rfl⟩

theorem mirrors_modify {f : Channel (Tapped σ) → Channel (Tapped σ)} {g : Channel σ → Channel σ}
    (h : g c.untapped = (f c).untapped) : Mirrors c (modify f) (modify g) := ⟨rfl, h⟩

theorem mirrors_ite {p : Prop} [Decidable p]
    {other : EStateM ChannelError (Channel (Tapped σ)) α}
    {other' : EStateM ChannelError (Channel σ) α} (h : Mirrors c task task')
    (hother : Mirrors c other other') :
    Mirrors c (if p then task else other) (if p then task' else other') := by
  by_cases hp : p
  · rwa [if_pos hp, if_pos hp]
  · rwa [if_neg hp, if_neg hp]

theorem Mirrors.bind {f : α → EStateM ChannelError (Channel (Tapped σ)) β}
    {f' : α → EStateM ChannelError (Channel σ) β} (h : Mirrors c task task')
    (hnext : ∀ a c', Mirrors c' (f a) (f' a)) : Mirrors c (task >>= f) (task' >>= f') := by
  rw [Mirrors, ends_bind]
  refine Ends.mono h ?_
  intro result c' h'
  cases result with
  | ok a =>
      refine Ends.mono (hnext a c') ?_
      intro result' c'' h''
      rw [ends_bind]
      refine Ends.mono h' ?_
      rintro result d ⟨rfl, rfl⟩
      exact h''
  | error e =>
      refine ends_bind.2 (Ends.mono h' ?_)
      rintro result d ⟨rfl, rfl⟩
      exact ⟨rfl, rfl⟩

theorem mirrors_get_bind {f : Channel (Tapped σ) → EStateM ChannelError (Channel (Tapped σ)) β}
    {f' : Channel σ → EStateM ChannelError (Channel σ) β} (h : Mirrors c (f c) (f' c.untapped)) :
    Mirrors c (get >>= f) (get >>= f') := h

end

theorem note_mirrors {σ : Type} (c : Channel (Tapped σ)) (level : Log.Level) (text : String) :
    Mirrors c (note level text) (note level text) :=
  mirrors_modify rfl

section

variable {σ : Type} [Transport σ]

theorem receive_tapped {t : Tapped σ} {wait : Wait} {reception : Reception} {transport : σ}
    (h : Transport.receive t.transport wait = (reception, transport)) :
    Transport.receive t wait =
      (reception, ⟨transport, t.traffic ++ [.received wait reception]⟩) := by
  simp only [Transport.receive, h]

theorem send_tapped {t : Tapped σ} {data : Bytes} {failure : Option Errno} {transport : σ}
    (h : Transport.send t.transport data = (failure, transport)) :
    Transport.send t data = (failure, ⟨transport, t.traffic ++ [.sent data failure]⟩) := by
  simp only [Transport.send, h]

theorem receive_mirrors (c : Channel (Tapped σ)) (wait : Wait) :
    Mirrors c (receive wait) (receive wait) := by
  refine mirrors_get_bind ?_
  rcases hreceive : Transport.receive c.transport.transport wait with ⟨reception, transport⟩
  simp only [receive_tapped hreceive, untapped, hreceive]
  refine Mirrors.bind (mirrors_set _) fun _ c' => ?_
  cases reception.arrival with
  | nothing => exact mirrors_pure _
  | failure errno => exact mirrors_throw _
  | datagram data =>
      simp only
      cases Datagram.decode data with
      | ok messages => exact mirrors_pure _
      | error fault => exact Mirrors.bind (mirrors_modify rfl) fun _ _ => mirrors_pure _

theorem awaitReply_mirrors (c : Channel (Tapped σ)) (type : MessageType) (sequence : UInt32)
    (polls : Nat) (reply : Option Message) :
    Mirrors c (awaitReply type sequence polls reply) (awaitReply type sequence polls reply) := by
  induction polls generalizing c reply with
  | zero => exact mirrors_throw _
  | succ polls ih =>
      simp only [awaitReply]
      refine Mirrors.bind (receive_mirrors c .reply) fun received c' => ?_
      cases received with
      | nothing => exact ih c' reply
      | malformed fault => exact Mirrors.bind (note_mirrors c' _ _) fun _ c'' => ih c'' reply
      | messages messages =>
          refine Mirrors.bind (mirrors_modify rfl) fun _ c'' => ?_
          split
          · exact ih c'' _
          · exact mirrors_pure _
          · exact mirrors_throw _

theorem request_mirrors (c : Channel (Tapped σ)) (type : MessageType) (payload : Bytes) :
    Mirrors c (request type payload) (request type payload) := by
  refine mirrors_get_bind ?_
  rcases hsend : Transport.send c.transport.transport (Datagram.encode type
    (requestFlag ||| ackFlag) (nextSequence c.sequence) payload) with ⟨failure, transport⟩
  simp only [send_tapped hsend, untapped, hsend]
  refine Mirrors.bind (mirrors_set _) fun _ c' => ?_
  cases failure with
  | some errno => exact mirrors_throw _
  | none =>
      refine Mirrors.bind (note_mirrors c' _ _) fun _ c'' => ?_
      exact awaitReply_mirrors c'' type _ _ none

theorem request_note_mirrors (c : Channel (Tapped σ)) (type : MessageType) (payload : Bytes)
    (level : Log.Level) (text : String) :
    Mirrors c
      (do
        let _ ← request type payload
        note level text)
      (do
        let _ ← request type payload
        note level text) :=
  Mirrors.bind (request_mirrors c type payload) fun _ c' => note_mirrors c' level text

theorem nextMessage_mirrors (c : Channel (Tapped σ)) (mode : ReceiveMode) (polls : Nat) :
    Mirrors c (nextMessage mode polls) (nextMessage mode polls) := by
  induction polls generalizing c with
  | zero =>
      rw [nextMessage, nextMessage]
      refine mirrors_get_bind ?_
      simp only [untapped]
      cases c.pending with
      | cons message pending => exact Mirrors.bind (mirrors_set _) fun _ _ => mirrors_pure _
      | nil => exact mirrors_ite (mirrors_throw_bind _ _ _) (mirrors_throw _)
  | succ polls ih =>
      rw [nextMessage, nextMessage]
      refine mirrors_get_bind ?_
      simp only [untapped]
      cases c.pending with
      | cons message pending => exact Mirrors.bind (mirrors_set _) fun _ _ => mirrors_pure _
      | nil =>
          refine mirrors_ite (mirrors_throw_bind _ _ _) ?_
          refine Mirrors.bind (receive_mirrors c _) fun received c' => ?_
          cases received with
          | messages messages => exact Mirrors.bind (mirrors_modify rfl) fun _ c'' => ih c''
          | malformed fault => exact mirrors_throw _
          | nothing => exact mirrors_ite (ih c') (mirrors_pure _)

omit [Transport σ] in
theorem dispatch_mirrors (c : Channel (Tapped σ)) (message : Message) :
    Mirrors c (dispatch message) (dispatch message) :=
  mirrors_get_bind (Mirrors.bind (mirrors_set _) fun _ _ => mirrors_pure _)

theorem status_mirrors (c : Channel (Tapped σ)) : Mirrors c status status := by
  refine Mirrors.bind (request_mirrors c _ _) fun reply c' => ?_
  cases reply with
  | none => exact mirrors_get_bind (mirrors_throw _)
  | some reply =>
      simp only
      cases Status.decode reply.payload with
      | ok status => exact mirrors_pure _
      | error fault => exact mirrors_throw _

theorem task_mirrors (c : Channel (Tapped σ)) (op : Operation) :
    Mirrors c op.task op.task := by
  cases op with
  | receiveEvent mode polls =>
      refine Mirrors.bind (nextMessage_mirrors c mode polls) fun message c' => ?_
      cases message with
      | some message => exact dispatch_mirrors c' message
      | none => exact mirrors_pure _
  | installRule rule list action =>
      exact Mirrors.bind (request_note_mirrors c _ _ _ _) fun _ _ => mirrors_pure _
  | deleteRule rule list action =>
      exact Mirrors.bind (request_note_mirrors c _ _ _ _) fun _ _ => mirrors_pure _
  | setEnabled enabled =>
      exact Mirrors.bind (request_note_mirrors c _ _ _ _) fun _ _ => mirrors_pure _
  | registerListener pid =>
      exact Mirrors.bind (request_note_mirrors c _ _ _ _) fun _ _ => mirrors_pure _
  | status => exact Mirrors.bind (status_mirrors c) fun _ _ => mirrors_pure _

/-! ### Runs of tapped channels -/

theorem outcome_untapped (c : Channel (Tapped σ)) (op : Operation) :
    op.outcome c.untapped = ((op.outcome c).1, (op.outcome c).2.untapped) := by
  rw [Operation.outcome, (task_mirrors c op).run_eq, Operation.outcome]
  cases op.task.run c with
  | ok event c' => rfl
  | error e c' => rfl

theorem taken?_untapped (c : Channel (Tapped σ)) (op : Operation) :
    op.taken? c.untapped = op.taken? c := by
  cases op with
  | receiveEvent mode polls =>
      simp only [Operation.taken?]
      rw [(nextMessage_mirrors c mode polls).run_eq]
      cases (nextMessage mode polls).run c with
      | ok message c' => rfl
      | error e c' => rfl
  | _ => rfl

/-- The same progress without the record of the traffic. -/
def Progress.untapped (p : Progress (Tapped σ)) : Progress σ :=
  { p with channel := p.channel.untapped }

theorem Progress.step_untapped (p : Progress (Tapped σ)) (op : Operation) :
    p.untapped.step op = (p.step op).untapped := by
  simp only [Progress.step, Progress.untapped, outcome_untapped, taken?_untapped]

/-- Tapping the transport changes nothing of a run. -/
theorem run_tapped (c : Channel σ) (ops : List Operation) :
    (run c.tapped ops).untapped = run c ops := by
  have hfold (p : Progress (Tapped σ)) :
      (ops.foldl Progress.step p).untapped = ops.foldl Progress.step p.untapped := by
    induction ops generalizing p with
    | nil => rfl
    | cons op ops ih => rw [List.foldl_cons, List.foldl_cons, ih, Progress.step_untapped]
  exact hfold _

end

end LinuxAudit.Channel
