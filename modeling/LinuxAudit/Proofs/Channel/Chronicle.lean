import Mathlib
import LinuxAudit.Proofs.Channel.Completion
import LinuxAudit.Proofs.Channel.Conservation

/-! Which events span a datagram that cannot be read. Such a datagram drops the records that are
held back, but not those that are still pending. A chronicle goes along with a run and counts these
datagrams, which dates the arrival and the dispatch of every record. `spans_only_while_pending` says
that a record of an event may have arrived before such a datagram if it was dispatched behind it,
and that it takes a request to receive the datagram in between. -/

namespace LinuxAudit

/-- Whether something was received while a request waited. -/
def Traffic.isReply : Traffic → Bool
  | received .reply _ => true
  | _ => false

namespace Channel

/-! ### Chronicles -/

/-- A message with its arrival. Dates are the numbers of datagrams received before that cannot be
read. -/
structure Dated where
  message : Message
  arrival : Nat
deriving DecidableEq

/-- A message with its dispatch. -/
structure Dispatched extends Dated where
  dispatch : Nat
deriving DecidableEq

/-- No datagram that cannot be read was received while the message was pending. -/
def Dispatched.Prompt (d : Dispatched) : Prop :=
  d.arrival = d.dispatch

structure DatedEvent where
  closing : Dispatched
  continuations : List Dispatched
deriving DecidableEq

def DatedEvent.event (e : DatedEvent) : Event :=
  ⟨e.closing.message, e.continuations.map (·.message)⟩

/-- A channel as it is, with the dates of what has passed through it. -/
structure Chronicle where
  date : Nat := 0
  /-- The request whose answer is to come. -/
  waiting : Option UInt32 := none
  pending : List Dated
  held : List Dispatched
  events : List DatedEvent := []

namespace Chronicle

/-- What is there at the beginning is dated then. -/
def start {σ : Type} (c : Channel σ) : Chronicle where
  pending := c.pending.map fun m => { message := m, arrival := 0 }
  held := c.accumulator.records.map fun m => { message := m, arrival := 0, dispatch := 0 }

/-- What a signal brings is pending from then on. One that is garbled drops what is held back. -/
def observe (k : Chronicle) (s : Signal) : Chronicle where
  date := if s = .garbled then k.date + 1 else k.date
  waiting := waitingAfter k.waiting s
  pending := k.pending ++ (kept k.waiting [s]).map fun m => { message := m, arrival := k.date }
  held := if s = .garbled then [] else k.held
  events := k.events

/-- Dispatches the oldest message that is pending. -/
def dispatch (raw : Bool) (k : Chronicle) : Chronicle :=
  match k.pending with
  | [] => k
  | d :: pending =>
    let record : Dispatched := { d with dispatch := k.date }
    if raw = false ∧ (d.message.header.type = .path ∨ d.message.header.type = .processTitle) then
      { k with pending, held := k.held ++ [record] }
    else if raw = false ∧ d.message.header.type = .endOfEvent then
      { k with pending, held := [], events := k.events ++ [⟨record, k.held⟩] }
    else { k with pending, events := k.events ++ [⟨record, []⟩] }

variable {σ : Type} [Transport σ]

/-- Goes along with one operation: what arrives in it comes before what it dispatches. -/
def step (p : Progress (Tapped σ)) (k : Chronicle) (op : Operation) : Chronicle :=
  let new := (p.step op).channel.signals.drop p.channel.signals.length
  let k := new.foldl observe k
  match op.taken? p.channel with
  | none => k
  | some _ => k.dispatch p.channel.options.rawDelivery

/-- Goes along with operations, one after the other. -/
def along (p : Progress (Tapped σ)) (k : Chronicle) : List Operation → Chronicle
  | [] => k
  | op :: ops => along (p.step op) (k.step p op) ops

end Chronicle

/-- The chronicle of a run. -/
def chronicle {σ : Type} [Transport σ] (c : Channel (Tapped σ)) (ops : List Operation) :
    Chronicle :=
  (Chronicle.start c).along { channel := c } ops

namespace Chronicle

section

variable {k : Chronicle}

/-- What a dispatch does with the oldest message: it is held back, closes an event or is one of its
own. -/
theorem dispatch_cases (raw : Bool) (k : Chronicle) :
    k.dispatch raw = k ∨ ∃ d pending, k.pending = d :: pending ∧
      (k.dispatch raw = { k with pending, held := k.held ++ [{ d with dispatch := k.date }] } ∨
      k.dispatch raw =
        { k with
          pending, held := [], events := k.events ++ [⟨{ d with dispatch := k.date }, k.held⟩] } ∨
      k.dispatch raw =
        { k with pending, events := k.events ++ [⟨{ d with dispatch := k.date }, []⟩] }) := by
  cases hpending : k.pending with
  | nil =>
      left
      simp only [dispatch, hpending]
  | cons d pending =>
      refine .inr ⟨d, pending, rfl, ?_⟩
      simp only [dispatch, hpending]
      split
      · exact .inl rfl
      · split
        · exact .inr (.inl rfl)
        · exact .inr (.inr rfl)

/-! ### Chronicles follow runs -/

theorem dispatch_delivers (raw : Bool) {d : Dated} {pending : List Dated}
    (hpending : k.pending = d :: pending) :
    (k.dispatch raw).date = k.date ∧ (k.dispatch raw).pending = pending ∧
    ((k.dispatch raw).events.map DatedEvent.event, (k.dispatch raw).held.map (·.message)) =
      deliver raw (k.events.map DatedEvent.event, k.held.map (·.message)) d.message := by
  simp only [dispatch, hpending, deliver]
  cases raw with
  | true =>
      simp only [Bool.true_eq_false, false_and, if_false, if_true, true_and, List.map_append]
      rfl
  | false =>
      simp only [true_and, Bool.false_eq_true, if_false]
      split
      · exact ⟨rfl, rfl, by rw [List.map_append]; rfl⟩
      · split
        · exact ⟨rfl, rfl, by rw [List.map_append]; rfl⟩
        · exact ⟨rfl, rfl, by rw [List.map_append]; rfl⟩

theorem observe_all (k : Chronicle) (new : List Signal) :
    (new.foldl observe k).date = k.date + new.count .garbled ∧
    (new.foldl observe k).pending.map (·.message) =
      k.pending.map (·.message) ++ kept k.waiting new ∧
    (new.foldl observe k).held = (if .garbled ∈ new then [] else k.held) ∧
    (new.foldl observe k).events = k.events := by
  induction new generalizing k with
  | nil => exact ⟨rfl, (List.append_nil _).symm, rfl, rfl⟩
  | cons s new ih =>
      obtain ⟨hdate, hpending, hheld, hevents⟩ := ih (k.observe s)
      rw [List.foldl_cons]
      refine ⟨?_, ?_, ?_, hevents⟩
      · rw [hdate, List.count_cons, observe]
        by_cases hs : s = .garbled
        · simp only [if_pos hs, beq_iff_eq]
          omega
        · simp only [if_neg hs, beq_iff_eq]
          omega
      · rw [hpending, kept_cons]
        simp only [observe, List.map_append, List.map_map, List.append_assoc]
        congr 2
        exact List.map_id _
      · rw [hheld, observe]
        by_cases hs : s = .garbled
        · simp only [hs, if_true, ite_self, List.mem_cons_self]
        · simp only [hs, if_false, List.mem_cons, Ne.symm hs, false_or]

end

section

variable {σ : Type} [Transport σ] {p : Progress (Tapped σ)} {k : Chronicle}

/-- A chronicle agrees with a run so far, if one forgets the dates. -/
structure Follows (p : Progress (Tapped σ)) (k : Chronicle) : Prop where
  date : k.date = p.channel.signals.count .garbled
  pending : k.pending.map (·.message) = p.channel.pending
  delivered : (k.events.map DatedEvent.event, k.held.map (·.message)) =
    (p.events, p.channel.accumulator.records)

theorem step_of_signals {op : Operation} {new : List Signal}
    (h : (p.step op).channel.signals = p.channel.signals ++ new) :
    k.step p op = match op.taken? p.channel with
      | none => new.foldl observe k
      | some _ => (new.foldl observe k).dispatch p.channel.options.rawDelivery := by
  rw [step, h, List.drop_left]

theorem Follows.step (h : k.Follows p) (op : Operation) : (k.step p op).Follows (p.step op) := by
  obtain ⟨new, hsignals, -, hpending, hevents⟩ := outcome_conserves p.channel op
  have hpending := hpending k.waiting
  have hevents := hevents p.events
  obtain ⟨hdate, hpending', hheld, hevents'⟩ := observe_all k new
  have hcount : k.date + new.count .garbled = (p.step op).channel.signals.count .garbled := by
    rw [h.date, ← List.count_append]
    exact congrArg _ hsignals.symm
  -- What the run holds back after the signals, before it dispatches a message.
  have hobserved : ((new.foldl observe k).events.map DatedEvent.event,
      (new.foldl observe k).held.map (·.message)) =
      (p.events, if .garbled ∈ new then [] else p.channel.accumulator.records) := by
    obtain ⟨hevents, hrecords⟩ := Prod.mk.inj h.delivered
    rw [hevents', hheld, hevents, ← hrecords]
    split
    · rfl
    · rfl
  rw [step_of_signals hsignals]
  rw [← h.pending] at hpending
  cases htaken : op.taken? p.channel with
  | none =>
      rw [htaken] at hpending hevents
      exact ⟨hdate.trans hcount, hpending'.trans hpending, hobserved.trans hevents.symm⟩
  | some m =>
      rw [htaken] at hpending hevents
      obtain ⟨d, pending, hd, rfl, hrest⟩ := List.map_eq_cons_iff.1 (hpending'.trans hpending)
      obtain ⟨hdate', hpending'', hdelivered'⟩ :=
        dispatch_delivers p.channel.options.rawDelivery hd
      refine ⟨(hdate'.trans hdate).trans hcount, ?_, ?_⟩
      · rw [hpending'', hrest]
        rfl
      · rw [hdelivered', hobserved]
        exact hevents.symm

/-- What a step of a run and of its chronicle keeps is kept along a run. -/
theorem along_keeps {inv : Progress (Tapped σ) → Chronicle → Prop}
    (hstep : ∀ p k op, inv p k → inv (p.step op) (k.step p op)) (h : inv p k)
    (ops : List Operation) : inv (ops.foldl Progress.step p) (k.along p ops) := by
  induction ops generalizing p k with
  | nil => exact h
  | cons op ops ih => exact ih (hstep p k op h)

end

/-! ### Dates in a chronicle -/

section

variable {k : Chronicle} {s : Signal}

/-- What is pending and what is held back arrived in order. What is held back was dispatched behind
the last datagram that cannot be read, as were the records of an event when its end was. -/
structure Sound (k : Chronicle) : Prop where
  sorted : k.pending.Pairwise fun d d' => d.arrival ≤ d'.arrival
  pending : ∀ d ∈ k.pending, d.arrival ≤ k.date
  held : ∀ r ∈ k.held, r.dispatch = k.date ∧ r.arrival ≤ k.date ∧
    ∀ d ∈ k.pending, r.arrival ≤ d.arrival
  events : ∀ event ∈ k.events, ∀ r ∈ event.continuations,
    r.arrival ≤ event.closing.arrival ∧ event.closing.arrival ≤ r.dispatch ∧
      r.dispatch = event.closing.dispatch

theorem sound_start {σ : Type} (c : Channel σ) : (start c).Sound where
  sorted := List.pairwise_map.2 (List.pairwise_of_forall fun _ _ => Nat.le_refl 0)
  pending := by
    intro d hd
    obtain ⟨m, -, rfl⟩ := List.mem_map.1 hd
    exact Nat.le_refl 0
  held := by
    intro r hr
    obtain ⟨m, -, rfl⟩ := List.mem_map.1 hr
    exact ⟨rfl, Nat.le_refl 0, fun d _ => Nat.zero_le d.arrival⟩
  events := fun event hevent => nomatch hevent

theorem mem_observe_pending {d : Dated} (h : d ∈ (k.observe s).pending) :
    d ∈ k.pending ∨ s ≠ .garbled ∧ d.arrival = k.date := by
  rcases List.mem_append.1 h with h | h
  · exact .inl h
  · obtain ⟨m, hm, rfl⟩ := List.mem_map.1 h
    refine .inr ⟨?_, rfl⟩
    rintro rfl
    cases hm

theorem mem_observe_held {r : Dispatched} (h : r ∈ (k.observe s).held) :
    s ≠ .garbled ∧ r ∈ k.held := by
  by_cases hs : s = .garbled
  · simp only [observe, if_pos hs] at h
    cases h
  · simp only [observe, if_neg hs] at h
    exact ⟨hs, h⟩

theorem observe_date_of_ne (hs : s ≠ .garbled) : (k.observe s).date = k.date :=
  if_neg hs

theorem le_observe_date (k : Chronicle) (s : Signal) : k.date ≤ (k.observe s).date := by
  by_cases hs : s = .garbled
  · simp only [observe, if_pos hs]
    exact Nat.le_succ k.date
  · rw [observe_date_of_ne hs]

theorem Sound.observe (h : k.Sound) (s : Signal) : (k.observe s).Sound where
  sorted := by
    refine List.pairwise_append.2 ⟨h.sorted, ?_, fun d hd d' hd' => ?_⟩
    · exact List.pairwise_map.2 (List.pairwise_of_forall fun _ _ => Nat.le_refl k.date)
    · obtain ⟨m, -, rfl⟩ := List.mem_map.1 hd'
      exact h.pending d hd
  pending := by
    intro d hd
    refine Nat.le_trans ?_ (le_observe_date k s)
    rcases mem_observe_pending hd with hd | ⟨-, hd⟩
    · exact h.pending d hd
    · exact Nat.le_of_eq hd
  held := by
    intro r hr
    obtain ⟨hs, hr⟩ := mem_observe_held hr
    obtain ⟨hdispatch, harrival, hpending⟩ := h.held r hr
    rw [observe_date_of_ne hs]
    refine ⟨hdispatch, harrival, fun d hd => ?_⟩
    rcases mem_observe_pending hd with hd | ⟨-, hd⟩
    · exact hpending d hd
    · exact hd ▸ harrival
  events := h.events

theorem Sound.dispatch (h : k.Sound) (raw : Bool) : (k.dispatch raw).Sound := by
  rcases dispatch_cases raw k with heq | ⟨d, pending, hpending, hcases⟩
  · rwa [heq]
  · have hsorted := h.sorted
    have hbound := h.pending
    have hheld := h.held
    rw [hpending] at hsorted hbound hheld
    obtain ⟨hd, hsorted⟩ := List.pairwise_cons.1 hsorted
    obtain ⟨hdate, hbound⟩ := List.forall_mem_cons.1 hbound
    have hheld' : ∀ r ∈ k.held, r.dispatch = k.date ∧ r.arrival ≤ k.date ∧
        ∀ d' ∈ pending, r.arrival ≤ d'.arrival := by
      intro r hr
      obtain ⟨hdispatch, harrival, hlater⟩ := hheld r hr
      exact ⟨hdispatch, harrival, fun d' hd' => hlater d' (List.mem_cons_of_mem d hd')⟩
    rcases hcases with heq | heq | heq
    · rw [heq]
      refine ⟨hsorted, hbound, List.forall_mem_append.2 ⟨hheld', ?_⟩, h.events⟩
      exact List.forall_mem_singleton.2 ⟨rfl, hdate, hd⟩
    · rw [heq]
      refine ⟨hsorted, hbound, List.forall_mem_nil _, List.forall_mem_append.2 ⟨h.events, ?_⟩⟩
      refine List.forall_mem_singleton.2 fun r hr => ?_
      obtain ⟨hdispatch, -, hlater⟩ := hheld r hr
      exact ⟨hlater d List.mem_cons_self, hdispatch ▸ hdate, hdispatch⟩
    · rw [heq]
      refine ⟨hsorted, hbound, hheld', List.forall_mem_append.2 ⟨h.events, ?_⟩⟩
      exact List.forall_mem_singleton.2 (List.forall_mem_nil _)

/-- No datagram that cannot be read was received while a message was pending. -/
structure AllPrompt (k : Chronicle) : Prop where
  pending : ∀ d ∈ k.pending, d.arrival = k.date
  held : ∀ r ∈ k.held, r.Prompt
  events : ∀ event ∈ k.events, ∀ r ∈ event.continuations, r.Prompt

theorem allPrompt_start {σ : Type} (c : Channel σ) : (start c).AllPrompt where
  pending := by
    intro d hd
    obtain ⟨m, -, rfl⟩ := List.mem_map.1 hd
    rfl
  held := by
    intro r hr
    obtain ⟨m, -, rfl⟩ := List.mem_map.1 hr
    rfl
  events := fun event hevent => nomatch hevent

theorem AllPrompt.observe (h : k.AllPrompt) (hs : s = .garbled → k.pending = []) :
    (k.observe s).AllPrompt where
  pending := by
    intro d hd
    rcases mem_observe_pending hd with hd | ⟨hne, hd⟩
    · have hne : s ≠ .garbled := fun hgarbled => List.ne_nil_of_mem hd (hs hgarbled)
      rw [observe_date_of_ne hne]
      exact h.pending d hd
    · rw [observe_date_of_ne hne]
      exact hd
  held := fun r hr => h.held r (mem_observe_held hr).2
  events := h.events

theorem AllPrompt.dispatch (h : k.AllPrompt) (raw : Bool) : (k.dispatch raw).AllPrompt := by
  rcases dispatch_cases raw k with heq | ⟨d, pending, hpending, hcases⟩
  · rwa [heq]
  · have hbound := h.pending
    rw [hpending] at hbound
    obtain ⟨hd, hbound⟩ := List.forall_mem_cons.1 hbound
    rcases hcases with heq | heq | heq
    · rw [heq]
      refine ⟨hbound, List.forall_mem_append.2 ⟨h.held, ?_⟩, h.events⟩
      exact List.forall_mem_singleton.2 hd
    · rw [heq]
      refine ⟨hbound, List.forall_mem_nil _, List.forall_mem_append.2 ⟨h.events, ?_⟩⟩
      exact List.forall_mem_singleton.2 h.held
    · rw [heq]
      refine ⟨hbound, h.held, List.forall_mem_append.2 ⟨h.events, ?_⟩⟩
      exact List.forall_mem_singleton.2 (List.forall_mem_nil _)

end

section

variable {σ : Type} [Transport σ] {p : Progress (Tapped σ)} {k : Chronicle}

theorem Sound.step (h : k.Sound) (p : Progress (Tapped σ)) (op : Operation) :
    (k.step p op).Sound := by
  have hobserved (new : List Signal) : (new.foldl Chronicle.observe k).Sound :=
    List.foldlRecOn new Chronicle.observe h fun _ h' s _ => h'.observe s
  rw [Chronicle.step]
  cases op.taken? p.channel with
  | none => exact hobserved _
  | some _ => exact (hobserved _).dispatch _

/-- A datagram that cannot be read leaves everything prompt if nothing is pending when it comes. -/
theorem AllPrompt.step (h : k.AllPrompt) {op : Operation} {new : List Signal}
    (hsignals : (p.step op).channel.signals = p.channel.signals ++ new)
    (hnew : .garbled ∉ new ∨ k.pending = [] ∧ new = [.garbled]) : (k.step p op).AllPrompt := by
  have hobserved : (new.foldl Chronicle.observe k).AllPrompt := by
    rcases hnew with hclean | ⟨hpending, rfl⟩
    · refine List.foldlRecOn new Chronicle.observe h fun k' h' s hs => h'.observe ?_
      rintro rfl
      exact absurd hs hclean
    · exact h.observe fun _ => hpending
  rw [step_of_signals hsignals]
  cases op.taken? p.channel with
  | none => exact hobserved
  | some _ => exact hobserved.dispatch _

end

end Chronicle

/-! ### Where datagrams that cannot be read come in -/

/-- No datagram that cannot be read was received while a request waited. -/
def RepliesReadable (traffic : List Traffic) : Prop :=
  .garbled ∉ (traffic.filter Traffic.isReply).flatMap Traffic.signals

instance (traffic : List Traffic) : Decidable (RepliesReadable traffic) :=
  inferInstanceAs (Decidable (_ ∉ _))

theorem RepliesReadable.of_append {traffic more : List Traffic}
    (h : RepliesReadable (traffic ++ more)) : RepliesReadable traffic := by
  intro hgarbled
  refine h ?_
  rw [List.filter_append, List.flatMap_append]
  exact List.mem_append_left _ hgarbled

section

variable {σ : Type} [Transport σ] (c : Channel (Tapped σ))

/-- An operation adds to the traffic, and only a receive receives otherwise than for a reply. -/
theorem task_traffic (op : Operation) : Ends op.task c fun _ c' => ∃ more,
    c'.transport.traffic = c.transport.traffic ++ more ∧
    (op.isReceive = false → ∀ wait reception, .received wait reception ∈ more → wait = .reply) := by
  refine op.ends_task ?_ ?_ fun _ _ h => h
  · rintro mode polls rfl
    have hreceive (c' : Channel (Tapped σ)) (wait : Wait)
        (h : ∃ more, c'.transport.traffic = c.transport.traffic ++ more) :
        Ends (receive wait) c' fun _ c'' =>
          ∃ more, c''.transport.traffic = c.transport.traffic ++ more := by
      obtain ⟨more, hmore⟩ := h
      refine (receive_brings c' wait).mono ?_
      rintro _ c'' ⟨reception, htraffic, -, -⟩
      exact ⟨more ++ [.received wait reception], by rw [htraffic, hmore, List.append_assoc]⟩
    refine (receiveEvent_keeps hreceive (fun _ _ h => h) (fun _ _ h => h) c
      ⟨[], (List.append_nil _).symm⟩ mode polls).mono ?_
    rintro _ c' ⟨more, hmore⟩
    exact ⟨more, hmore, fun h => nomatch h⟩
  · intro type payload
    refine (request_completes c type payload).mono ?_
    rintro _ c' ⟨failure, receptions, htraffic, -, -⟩
    refine ⟨_, htraffic, fun _ wait reception hmem => ?_⟩
    rcases List.mem_cons.1 hmem with h | h
    · cases h
    · obtain ⟨_, -, h⟩ := List.mem_map.1 h
      exact (Traffic.received.inj h).1.symm

/-- A receive meets a datagram that cannot be read with nothing pending. -/
theorem garbled_of_receive {mode : ReceiveMode} {polls : Nat} {new : List Signal}
    (hsignals : (Operation.outcome c (.receiveEvent mode polls)).2.signals = c.signals ++ new) :
    .garbled ∉ new ∨ c.pending = [] ∧ new = [.garbled] := by
  obtain ⟨result, new', c', hmoved, htakes, -, houtcome⟩ := receiveEvent_outcome c mode polls
  have hsignals' : (Operation.outcome c (.receiveEvent mode polls)).2.signals = c'.signals := by
    rw [houtcome]
    cases result.toOption.join with
    | none => rfl
    | some m => rfl
  obtain rfl : new' = new := by
    rw [hsignals', hmoved.signals] at hsignals
    exact List.append_cancel_left hsignals
  rcases htakes.eq_or_eq with ⟨m, ms, -, rfl, -⟩ | ⟨-, hpending, -, rfl | rfl⟩
  · refine .inl fun h => ?_
    obtain ⟨m', -, h⟩ := List.mem_map.1 h
    cases h
  · exact .inl List.not_mem_nil
  · exact .inr ⟨hpending, rfl⟩

theorem garbled_of_repliesReadable {op : Operation} {new : List Signal}
    (hsignals : (op.outcome c).2.signals = c.signals ++ new)
    (hreadable : RepliesReadable (op.outcome c).2.transport.traffic) :
    .garbled ∉ new ∨ c.pending = [] ∧ new = [.garbled] := by
  obtain ⟨more, htraffic, hreply⟩ := Operation.outcome_of_ends (task_traffic c op)
  cases hop : op.isReceive with
  | true =>
      cases op with
      | receiveEvent mode polls => exact garbled_of_receive c hsignals
      | _ => cases hop
  | false =>
      have hnew : new = more.flatMap Traffic.signals := by
        rw [signals, htraffic, List.flatMap_append] at hsignals
        exact (List.append_cancel_left hsignals).symm
      refine .inl fun hgarbled => hreadable ?_
      rw [hnew] at hgarbled
      obtain ⟨traffic, hmem, hgarbled⟩ := List.mem_flatMap.1 hgarbled
      obtain ⟨wait, reception, -, -, rfl, -⟩ := garbled_mem_signals_iff.1 hgarbled
      obtain rfl := hreply hop wait reception hmem
      refine List.mem_flatMap.2 ⟨.received .reply reception, List.mem_filter.2 ⟨?_, rfl⟩, hgarbled⟩
      rw [htraffic]
      exact List.mem_append_right _ hmem

end

/-! ### Chronicles of runs -/

section

variable {σ : Type} [Transport σ] (c : Channel σ) (ops : List Operation)

theorem chronicle_follows : (chronicle c.tapped ops).Follows (run c.tapped ops) := by
  have hstart : (Chronicle.start c.tapped).Follows { channel := c.tapped } := by
    refine ⟨rfl, ?_, ?_⟩
    · exact List.map_map.trans (List.map_id _)
    · exact congrArg ([], ·) (List.map_map.trans (List.map_id _))
  exact Chronicle.along_keeps (fun _ _ op h => h.step op) hstart ops

theorem chronicle_sound : (chronicle c.tapped ops).Sound := by
  let inv (_ : Progress (Tapped σ)) (k : Chronicle) : Prop := k.Sound
  have hstep (p : Progress (Tapped σ)) (k : Chronicle) (op : Operation) (h : inv p k) :
      inv (p.step op) (k.step p op) := Chronicle.Sound.step h p op
  exact Chronicle.along_keeps hstep (Chronicle.sound_start c.tapped) ops

theorem chronicle_allPrompt
    (hreadable : RepliesReadable (run c.tapped ops).channel.transport.traffic) :
    (chronicle c.tapped ops).AllPrompt := by
  -- The condition is on the traffic so far, which only grows.
  let inv (p : Progress (Tapped σ)) (k : Chronicle) : Prop :=
    k.Follows p ∧ (RepliesReadable p.channel.transport.traffic → k.AllPrompt)
  have hstep (p : Progress (Tapped σ)) (k : Chronicle) (op : Operation) (h : inv p k) :
      inv (p.step op) (k.step p op) := by
    obtain ⟨hfollows, hprompt⟩ := h
    refine ⟨hfollows.step op, fun hreadable => ?_⟩
    obtain ⟨new, hsignals, -⟩ := outcome_conserves p.channel op
    obtain ⟨more, htraffic, -⟩ := Operation.outcome_of_ends (task_traffic p.channel op)
    have hbefore : RepliesReadable p.channel.transport.traffic := by
      rw [Progress.step, htraffic] at hreadable
      exact hreadable.of_append
    refine (hprompt hbefore).step hsignals ?_
    refine (garbled_of_repliesReadable p.channel hsignals hreadable).imp_right ?_
    rintro ⟨hpending, hnew⟩
    rw [← hfollows.pending] at hpending
    exact ⟨List.map_eq_nil_iff.1 hpending, hnew⟩
  have hinv : inv (run c.tapped ops) (chronicle c.tapped ops) :=
    Chronicle.along_keeps hstep
      ⟨chronicle_follows c [], fun _ => Chronicle.allPrompt_start c.tapped⟩ ops
  exact hinv.2 hreadable

end

/-- Which events span a datagram that cannot be read. The chronicle of a run, which agrees with it,
dates its events: the records of an event arrived before its end, and no such datagram was received
from their dispatch to the dispatch of the end. One that was received after a record arrived and
before the end did thus came while the record was pending; and if no request received one, there is
none. -/
theorem spans_only_while_pending {σ : Type} [Transport σ] (c : Channel σ) (ops : List Operation) :
    let k := chronicle c.tapped ops
    (run c.tapped ops).untapped = run c ops ∧ k.Follows (run c.tapped ops) ∧
    (∀ event ∈ k.events, ∀ r ∈ event.continuations,
      r.arrival ≤ event.closing.arrival ∧ event.closing.arrival ≤ r.dispatch ∧
        r.dispatch = event.closing.dispatch) ∧
    (RepliesReadable (run c.tapped ops).channel.transport.traffic →
      ∀ event ∈ k.events, ∀ r ∈ event.continuations, r.arrival = event.closing.arrival) := by
  intro k
  have hsound := chronicle_sound c ops
  refine ⟨run_tapped c ops, chronicle_follows c ops, hsound.events, ?_⟩
  intro hreadable event hevent r hr
  obtain ⟨hle, hge, -⟩ := hsound.events event hevent r hr
  have hprompt : r.Prompt := (chronicle_allPrompt c ops hreadable).events event hevent r hr
  exact Nat.le_antisymm hle (hge.trans (Nat.le_of_eq hprompt.symm))

/-- A record arrives while a request waits, then a datagram that cannot be read, then the answer to
the request, and then the end of the event. -/
def garbledRequest : Channel Script where
  transport := {
    items := [
      .datagram (Datagram.encode .path 0 0 [0x61]),
      .datagram [0xff],
      .datagram (Datagram.encode .error 0 1 [0, 0, 0, 0]),
      .datagram (Datagram.encode .endOfEvent 0 0 [])] }

def garbledRequestOperations : List Operation :=
  [.setEnabled true, .receiveEvent .nonBlocking 1, .receiveEvent .nonBlocking 1]

/-- A datagram that cannot be read does not always drop the records received before it. -/
theorem can_span_garbled :
    ¬∀ (c : Channel Script) (ops : List Operation), c.pending = [] → c.accumulator.records = [] →
      ∀ event ∈ (chronicle c.tapped ops).events, ∀ r ∈ event.continuations,
        r.arrival = event.closing.arrival := by
  intro h
  let path : Dispatched := ⟨⟨Datagram.request .path 0 0 [0x61], 0⟩, 1⟩
  let closing : Dispatched := ⟨⟨Datagram.request .endOfEvent 0 0 [], 1⟩, 1⟩
  have hevent : ⟨closing, [path]⟩ ∈
      (chronicle garbledRequest.tapped garbledRequestOperations).events := by decide +kernel
  have harrival := h garbledRequest garbledRequestOperations rfl rfl _ hevent path
    List.mem_cons_self
  revert harrival
  decide

/-- A receive meets a datagram that cannot be read, and a request waits later. -/
def garbledReceive : Channel Script where
  transport := {
    items := [
      .datagram (Datagram.encode .path 0 0 [0x61]),
      .datagram [0xff],
      .datagram (Datagram.encode .path 0 0 [0x62]),
      .datagram (Datagram.encode .error 0 1 [0, 0, 0, 0] ++ Datagram.encode .endOfEvent 0 0 [])] }

theorem spans_only_while_pending_garbledReceive :
    let ops : List Operation := [.receiveEvent .nonBlocking 1, .receiveEvent .nonBlocking 1,
      .setEnabled true, .receiveEvent .nonBlocking 1, .receiveEvent .nonBlocking 1]
    RepliesReadable (run garbledReceive.tapped ops).channel.transport.traffic ∧
    (run garbledReceive ops).events =
      [⟨Datagram.request .endOfEvent 0 0 [], [Datagram.request .path 0 0 [0x62]]⟩] ∧
    ∀ event ∈ (chronicle garbledReceive.tapped ops).events, ∀ r ∈ event.continuations,
      r.arrival = event.closing.arrival := by
  intro ops
  have hreadable : RepliesReadable (run garbledReceive.tapped ops).channel.transport.traffic := by
    decide +kernel
  obtain ⟨-, -, -, hprompt⟩ := spans_only_while_pending garbledReceive ops
  exact ⟨hreadable, by decide +kernel, hprompt hreadable⟩

end Channel

end LinuxAudit
