import Mathlib
import LinuxAudit.Channel.Script
import LinuxAudit.Proofs.Channel.Stream

/-! Nothing is lost on a channel. In whatever order requests and receives are made and whatever
becomes of them, `run_conserves` says that the messages that no request consumes are dispatched or
pending, each once and in the order of arrival, and that the events follow from what was
dispatched. -/

namespace LinuxAudit.Channel

/-- What the dispatch of a message does to the events so far and to the records held back. -/
def deliver (raw : Bool) : List Event × List Message → Message → List Event × List Message
  | (events, held), m =>
    if raw then (events ++ [⟨m, []⟩], held)
    else if m.header.type = .path ∨ m.header.type = .processTitle then (events, held ++ [m])
    else if m.header.type = .endOfEvent then (events ++ [⟨m, held⟩], [])
    else (events ++ [⟨m, []⟩], held)

theorem deliver_eq_dispatch (raw : Bool) (events : List Event) (acc : Accumulator) (m : Message) :
    deliver raw (events, acc.records) m =
      (events ++ (acc.dispatch raw m).1.toList, (acc.dispatch raw m).2.records) := by
  have hcontinuation : m.header.type.isContinuation ↔
      m.header.type = .path ∨ m.header.type = .processTitle := by
    rw [MessageType.isContinuation, Bool.or_eq_true, beq_iff_eq, beq_iff_eq]
  simp only [deliver, Accumulator.dispatch, hcontinuation]
  by_cases hraw : raw
  · simp only [if_pos hraw, Option.toList_some]
  · simp only [if_neg hraw]
    by_cases hheld : m.header.type = .path ∨ m.header.type = .processTitle
    · simp only [if_pos hheld, Option.toList_none, List.append_nil, Accumulator.push]
    · simp only [if_neg hheld]
      by_cases hend : m.header.type = .endOfEvent
      · simp only [if_pos hend, Accumulator.drain, Option.toList_some]
      · simp only [if_neg hend, Option.toList_some]

section

variable {σ : Type} [Transport σ] (c : Channel (Tapped σ))

/-- What a receive does: it takes the next message, and dispatches it if there is one. -/
theorem receiveEvent_outcome (mode : ReceiveMode) (polls : Nat) :
    ∃ result new c', Moved c c' new ∧ Takes c.pending result new c'.pending ∧
      Operation.taken? c (.receiveEvent mode polls) = result.toOption.join ∧
      Operation.outcome c (.receiveEvent mode polls) =
        match result.toOption.join with
        | some m => ((c'.accumulator.dispatch c'.options.rawDelivery m).1,
            { c' with accumulator := (c'.accumulator.dispatch c'.options.rawDelivery m).2 })
        | none => (none, c') := by
  have h := nextMessage_moved c mode polls
  simp only [Operation.taken?, Operation.outcome, Operation.task, receiveEvent, run_bind]
  cases hrun : (nextMessage mode polls).run c with
  | error e c' =>
      obtain ⟨new, hmoved, htakes⟩ := h.error hrun
      exact ⟨.error e, new, c', hmoved, htakes, rfl, rfl⟩
  | ok message c' =>
      obtain ⟨new, hmoved, htakes⟩ := h.ok hrun
      refine ⟨.ok message, new, c', hmoved, htakes, rfl, ?_⟩
      cases message with
      | none => rfl
      | some m => rfl

theorem ends_request {type : MessageType} {payload : Bytes}
    {post : Except ChannelError (Option Message) → Channel (Tapped σ) → Prop}
    (hok : ∀ reply c', Adds c c' → post (.ok reply) c')
    (herror : ∀ e c', Adds c c' → post (.error e) c') : Ends (request type payload) c post := by
  refine (request_adds c type payload).mono ?_
  intro result c' h
  cases result with
  | ok reply => exact hok reply c' h
  | error e => exact herror e c' h

/-- Every operation but a receive gives no event, and adds to what is pending what its request does
not consume. -/
theorem task_adds (op : Operation) (hop : ∀ mode polls, op ≠ .receiveEvent mode polls) :
    Ends op.task c fun result c' => result.toOption.join = none ∧ Adds c c' := by
  cases op with
  | receiveEvent mode polls => exact absurd rfl (hop mode polls)
  | installRule rule list action =>
      simp only [Operation.task, installRule, ends_bind, note, ends_modify, ends_pure]
      exact ends_request c (fun _ _ h => ⟨rfl, h.logged _⟩) (fun _ _ h => ⟨rfl, h⟩)
  | deleteRule rule list action =>
      simp only [Operation.task, deleteRule, ends_bind, note, ends_modify, ends_pure]
      exact ends_request c (fun _ _ h => ⟨rfl, h.logged _⟩) (fun _ _ h => ⟨rfl, h⟩)
  | setEnabled enabled =>
      simp only [Operation.task, setEnabled, ends_bind, note, ends_modify, ends_pure]
      exact ends_request c (fun _ _ h => ⟨rfl, h.logged _⟩) (fun _ _ h => ⟨rfl, h⟩)
  | registerListener pid =>
      simp only [Operation.task, registerListener, ends_bind, note, ends_modify, ends_pure]
      exact ends_request c (fun _ _ h => ⟨rfl, h.logged _⟩) (fun _ _ h => ⟨rfl, h⟩)
  | status =>
      simp only [Operation.task, status, ends_bind, ends_pure]
      refine ends_request c (fun reply c' h => ?_) (fun _ _ h => ⟨rfl, h⟩)
      cases reply with
      | none => exact ⟨rfl, h⟩
      | some reply =>
          simp only
          cases Status.decode reply.payload with
          | ok status => exact ⟨rfl, h⟩
          | error fault => exact ⟨rfl, h⟩

/-- What a step takes, what it has seen and what follows from both. -/
theorem outcome_conserves (op : Operation) : ∃ new,
    (op.outcome c).2.signals = c.signals ++ new ∧
    (op.outcome c).2.options = c.options ∧
    (∀ waiting, c.pending ++ kept waiting new =
      (op.taken? c).toList ++ (op.outcome c).2.pending) ∧
    ∀ events,
      (events ++ (op.outcome c).1.toList, (op.outcome c).2.accumulator.records) =
        (op.taken? c).toList.foldl (deliver c.options.rawDelivery)
          (events, if .garbled ∈ new then [] else c.accumulator.records) := by
  by_cases hop : ∃ mode polls, op = .receiveEvent mode polls
  · obtain ⟨mode, polls, rfl⟩ := hop
    obtain ⟨result, new, c', hmoved, htakes, htaken, houtcome⟩ :=
      receiveEvent_outcome c mode polls
    refine ⟨new, ?_⟩
    rw [htaken, houtcome]
    have hpending := htakes.append_kept
    cases hresult : result.toOption.join with
    | none =>
        rw [hresult] at hpending
        refine ⟨hmoved.signals, hmoved.options, hpending, ?_⟩
        intro events
        rw [← hmoved.records]
        exact congrArg (·, _) (List.append_nil _)
    | some m =>
        rw [hresult] at hpending
        refine ⟨hmoved.signals, hmoved.options, hpending, ?_⟩
        intro events
        rw [← hmoved.records, ← hmoved.options]
        exact (deliver_eq_dispatch _ events c'.accumulator m).symm
  · have h := task_adds c op fun mode polls h => hop ⟨mode, polls, h⟩
    have htaken : op.taken? c = none := by
      cases op with
      | receiveEvent mode polls => exact absurd ⟨mode, polls, rfl⟩ hop
      | _ => rfl
    have houtcome : (op.outcome c).1 = none ∧ Adds c (op.outcome c).2 := by
      rw [Operation.outcome]
      cases hrun : op.task.run c with
      | ok event c' => exact h.ok hrun
      | error e c' => exact ⟨rfl, (h.error hrun).2⟩
    obtain ⟨hevent, new, hmoved, hpending⟩ := houtcome
    refine ⟨new, hmoved.signals, hmoved.options, ?_, ?_⟩
    · intro waiting
      rw [htaken, hpending waiting]
      rfl
    · intro events
      rw [htaken, hevent, ← hmoved.records]
      exact congrArg (·, _) (List.append_nil _)

/-- What a run takes, what it has seen and what follows from both. -/
theorem progress_conserves (p : Progress (Tapped σ)) (ops : List Operation) : ∃ new ms,
    (ops.foldl Progress.step p).channel.signals = p.channel.signals ++ new ∧
    (ops.foldl Progress.step p).dispatched = p.dispatched ++ ms ∧
    (∀ waiting, p.channel.pending ++ kept waiting new =
      ms ++ (ops.foldl Progress.step p).channel.pending) ∧
    (.garbled ∉ new →
      ((ops.foldl Progress.step p).events,
        (ops.foldl Progress.step p).channel.accumulator.records) =
      ms.foldl (deliver p.channel.options.rawDelivery)
        (p.events, p.channel.accumulator.records)) := by
  induction ops generalizing p with
  | nil =>
      refine ⟨[], [], (List.append_nil _).symm, (List.append_nil _).symm, ?_, fun _ => rfl⟩
      intro waiting
      exact List.append_nil _
  | cons op ops ih =>
      obtain ⟨new, hsignals, hoptions, hpending, hevents⟩ := outcome_conserves p.channel op
      obtain ⟨more, ms, hsignals', hdispatched, hpending', hevents'⟩ := ih (p.step op)
      refine ⟨new ++ more, (op.taken? p.channel).toList ++ ms, ?_, ?_, ?_, ?_⟩
      · rw [List.foldl_cons, hsignals', ← List.append_assoc, ← hsignals]
        rfl
      · rw [List.foldl_cons, hdispatched, ← List.append_assoc]
        rfl
      · intro waiting
        let waiting' := new.foldl waitingAfter waiting
        calc p.channel.pending ++ kept waiting (new ++ more)
            = p.channel.pending ++ kept waiting new ++ kept waiting' more := by
              rw [kept_append, List.append_assoc]
          _ = (op.taken? p.channel).toList ++
                ((p.step op).channel.pending ++ kept waiting' more) := by
              rw [hpending, List.append_assoc]
              rfl
          _ = (op.taken? p.channel).toList ++ ms ++
                (ops.foldl Progress.step (p.step op)).channel.pending := by
              rw [hpending', List.append_assoc]
      · intro hclean
        obtain ⟨hnew, hmore⟩ := not_or.1 fun h => hclean (List.mem_append.2 h)
        have hstep : (p.step op).channel.options = p.channel.options := hoptions
        have hevents := hevents p.events
        rw [if_neg hnew] at hevents
        rw [List.foldl_cons, hevents' hmore, hstep, List.foldl_append, ← hevents]
        rfl

end

/-- Every datagram that was received can be read. -/
def AllReadable (traffic : List Traffic) : Prop :=
  ∀ wait reception data, .received wait reception ∈ traffic →
    reception.arrival = .datagram data → ∃ messages, Datagram.decode data = .ok messages

theorem garbled_mem_signals_iff {traffic : Traffic} :
    .garbled ∈ traffic.signals ↔ ∃ wait reception data fault,
      traffic = .received wait reception ∧ reception.arrival = .datagram data ∧
        Datagram.decode data = .error fault := by
  cases traffic with
  | sent data failure =>
      simp only [Traffic.signals]
      cases Header.decode? data with
      | none => simp
      | some result => simp
  | received wait reception =>
      simp only [Traffic.signals]
      cases harrival : reception.arrival with
      | nothing => simp [harrival]
      | failure errno => simp [harrival]
      | datagram data =>
          cases hdecode : Datagram.decode data with
          | error fault => simp [harrival, hdecode]
          | ok messages => simp [harrival, hdecode, Signal.arrived_ne_garbled]

theorem garbled_not_mem_iff {σ : Type} {c : Channel (Tapped σ)} :
    .garbled ∉ c.signals ↔ AllReadable c.transport.traffic := by
  rw [signals, List.mem_flatMap]
  constructor
  · intro h wait reception data hmem harrival
    cases hdecode : Datagram.decode data with
    | ok messages => exact ⟨messages, rfl⟩
    | error fault =>
        refine absurd ⟨_, hmem, ?_⟩ h
        exact garbled_mem_signals_iff.2 ⟨wait, reception, data, fault, rfl, harrival, hdecode⟩
  · rintro h ⟨traffic, hmem, hgarbled⟩
    obtain ⟨wait, reception, data, fault, rfl, harrival, hdecode⟩ :=
      garbled_mem_signals_iff.1 hgarbled
    obtain ⟨messages, hok⟩ := h wait reception data hmem harrival
    rw [hok] at hdecode
    cases hdecode

/-- No message is lost, duplicated or reordered in a run of a channel, whatever the operations are
and whatever becomes of them, as long as the datagrams received can be read. The transport is
tapped for its traffic, which changes nothing of the run. -/
theorem run_conserves {σ : Type} [Transport σ] (c : Channel σ) (ops : List Operation)
    (hreadable : AllReadable (run c.tapped ops).channel.transport.traffic) :
    (run c.tapped ops).untapped = run c ops ∧
    c.pending ++ kept none (run c.tapped ops).channel.signals =
      (run c ops).dispatched ++ (run c ops).channel.pending ∧
    ((run c ops).events, (run c ops).channel.accumulator.records) =
      (run c ops).dispatched.foldl (deliver c.options.rawDelivery)
        ([], c.accumulator.records) := by
  have huntapped := run_tapped c ops
  obtain ⟨new, ms, hsignals, hdispatched, hpending, hevents⟩ :=
    progress_conserves { channel := c.tapped } ops
  rw [show c.tapped.signals = [] from rfl, List.nil_append] at hsignals
  rw [List.nil_append] at hdispatched
  have hclean : .garbled ∉ new := by
    rw [← hsignals]
    exact garbled_not_mem_iff.2 hreadable
  rw [← huntapped]
  refine ⟨rfl, ?_, ?_⟩
  · rw [run, hsignals]
    refine (hpending none).trans ?_
    rw [← hdispatched]
    rfl
  · refine (hevents hclean).trans ?_
    rw [← hdispatched]
    rfl

/-- A record arrives while a request waits, and another one behind the acknowledgement. -/
def busy : Channel Script where
  transport := {
    items := [
      .datagram (Datagram.encode .path 0 0 [0x61]),
      .datagram (Datagram.encode .error 0 1 [0, 0, 0, 0] ++ Datagram.encode .endOfEvent 0 0 [])] }
  pending := [Datagram.request .processTitle 0 0 [0x62]]

def busyOperations : List Operation :=
  [.setEnabled true, .receiveEvent .nonBlocking 1, .receiveEvent .nonBlocking 1]

theorem run_conserves_busy :
    AllReadable (run busy.tapped busyOperations).channel.transport.traffic ∧
    busy.pending ++ kept none (run busy.tapped busyOperations).channel.signals =
      (run busy busyOperations).dispatched ++ (run busy busyOperations).channel.pending ∧
    (run busy busyOperations).dispatched =
      [Datagram.request .processTitle 0 0 [0x62], Datagram.request .path 0 0 [0x61]] ∧
    (run busy busyOperations).channel.pending = [Datagram.request .endOfEvent 0 0 []] := by
  have hreadable := garbled_not_mem_iff.1
    (show .garbled ∉ (run busy.tapped busyOperations).channel.signals by decide +kernel)
  obtain ⟨-, hpending, -⟩ := run_conserves busy busyOperations hreadable
  exact ⟨hreadable, hpending, by decide +kernel, by decide +kernel⟩

end LinuxAudit.Channel
