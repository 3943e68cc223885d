import Mathlib
import LinuxAudit.Channel.Script
import LinuxAudit.Proofs.Channel.Conservation

/-! What listening delivers and how it ends. The bounds on rounds and receives are taken away first:
`Settles` says what listening comes to once they are large enough. Over a script, `listen_delivers`
gives the events as a fold over what is pending and what is received, up to the first item that ends
listening. -/

namespace LinuxAudit.Channel

section

variable {σ : Type} [Transport σ] {c : Channel σ} {l : Listening σ}

/-- A round of listening with bounds of their own on its receives and on the rounds behind it. -/
def listenRound (c : Channel σ) (polls rounds : Nat) : Listening σ :=
  match (receiveEvent polls .blocking).run c with
  | .ok event c =>
    let rest := listen c rounds
    { rest with events := event.toList ++ rest.events }
  | .error .interrupted c => ⟨[], .ok (), c⟩
  | .error (.malformed fault) c =>
    listen { c with log := c.log ++ [⟨.warn, (ChannelError.malformed fault).message⟩] } rounds
  | .error e c => ⟨[], .error e, c⟩

theorem listen_succ (c : Channel σ) (rounds : Nat) :
    listen c (rounds + 1) = listenRound c rounds rounds := rfl

/-- With bounds that are large enough, listening comes to this. -/
def Settles (c : Channel σ) (l : Listening σ) : Prop :=
  ∃ enough, ∀ polls rounds, enough ≤ polls → enough ≤ rounds → listenRound c polls rounds = l

theorem Settles.listen (h : Settles c l) : ∃ enough, ∀ rounds, enough ≤ rounds →
    listen c rounds = l := by
  obtain ⟨enough, h⟩ := h
  refine ⟨enough + 1, ?_⟩
  intro rounds hrounds
  match rounds, hrounds with
  | rounds + 1, hrounds =>
      have hle := Nat.le_of_succ_le_succ hrounds
      exact (listen_succ c rounds).trans (h rounds rounds hle hle)

theorem run_nextMessage_of_stopped (hpending : c.pending = []) (hstopped : c.stopped = true)
    (polls : Nat) : (nextMessage .blocking polls).run c = .error .interrupted c := by
  cases polls with
  | zero =>
      rw [nextMessage, run_bind, run_get]
      simp only [hpending, hstopped, and_self, if_true]
      rfl
  | succ polls =>
      rw [nextMessage, run_bind, run_get]
      simp only [hpending, hstopped, and_self, if_true]
      rfl

omit [Transport σ] in
/-- A blocking receive does not stop before the signal is raised. -/
theorem goes_of_quiet (hstopped : c.stopped = false) :
    ¬(ReceiveMode.blocking = .blocking ∧ c.stopped = true) := by
  rw [hstopped]
  simp

/-- A pending message is dispatched before anything else. -/
theorem settles_of_pending {m : Message} {pending : List Message}
    (hpending : c.pending = m :: pending)
    (h : Settles { c with
      pending, accumulator := (c.accumulator.dispatch c.options.rawDelivery m).2 } l) :
    Settles c { l with
      events := (c.accumulator.dispatch c.options.rawDelivery m).1.toList ++ l.events } := by
  obtain ⟨enough, h⟩ := h.listen
  refine ⟨enough, ?_⟩
  intro polls rounds _ hrounds
  rw [← h rounds hrounds]
  simp only [listenRound, receiveEvent, run_bind, run_nextMessage_of_pending hpending]
  rfl

/-- With nothing pending, a raised stop signal ends listening. -/
theorem settles_of_stopped (hpending : c.pending = []) (hstopped : c.stopped = true) :
    Settles c ⟨[], .ok (), c⟩ := by
  refine ⟨0, ?_⟩
  intro polls rounds _ _
  simp only [listenRound, receiveEvent, run_bind, run_nextMessage_of_stopped hpending hstopped]

section

variable {reception : Reception} {transport : σ} (hpending : c.pending = [])
  (hstopped : c.stopped = false)
  (hreceive : Transport.receive c.transport .poll = (reception, transport))

include hpending hstopped hreceive

/-- With nothing pending and the signal not raised, listening receives. -/
theorem settles_of_failure {errno : Errno} (harrival : reception.arrival = .failure errno) :
    Settles c ⟨[], .error (.transport errno), { c with transport, stopped := reception.stop }⟩ := by
  refine ⟨1, ?_⟩
  intro polls rounds hpolls _
  obtain ⟨polls, rfl⟩ := Nat.exists_eq_add_of_le' hpolls
  simp only [listenRound, receiveEvent, run_bind,
    run_nextMessage_of_idle hpending (goes_of_quiet hstopped), if_true, run_receive hreceive,
    harrival, hstopped, Bool.false_or]

theorem settles_of_nothing (harrival : reception.arrival = .nothing)
    (h : Settles { c with transport, stopped := reception.stop } l) : Settles c l := by
  obtain ⟨enough, h⟩ := h
  refine ⟨enough + 1, ?_⟩
  intro polls rounds hpolls hrounds
  obtain ⟨polls, rfl⟩ := Nat.exists_eq_add_of_le' (Nat.le_of_add_left_le hpolls)
  rw [← h polls rounds (Nat.le_of_succ_le_succ hpolls) (Nat.le_of_succ_le hrounds)]
  simp only [listenRound, receiveEvent, run_bind,
    run_nextMessage_of_idle hpending (goes_of_quiet hstopped), if_true, run_receive hreceive,
    harrival, hstopped, Bool.false_or]

theorem settles_of_messages {data : Bytes} {messages : List Message}
    (harrival : reception.arrival = .datagram data) (hdecode : Datagram.decode data = .ok messages)
    (h : Settles { c with transport, stopped := reception.stop, pending := messages } l) :
    Settles c l := by
  obtain ⟨enough, h⟩ := h
  refine ⟨enough + 1, ?_⟩
  intro polls rounds hpolls hrounds
  obtain ⟨polls, rfl⟩ := Nat.exists_eq_add_of_le' (Nat.le_of_add_left_le hpolls)
  rw [← h polls rounds (Nat.le_of_succ_le_succ hpolls) (Nat.le_of_succ_le hrounds)]
  simp only [listenRound, receiveEvent, run_bind,
    run_nextMessage_of_idle hpending (goes_of_quiet hstopped), if_true, run_receive hreceive,
    harrival, hdecode, hstopped, Bool.false_or, hpending, List.nil_append]

theorem settles_of_malformed {data : Bytes} {fault : Malformation}
    (harrival : reception.arrival = .datagram data)
    (hdecode : Datagram.decode data = .error fault) :
    ∃ log, ∀ l, Settles { c with transport, stopped := reception.stop, accumulator := {}, log } l →
      Settles c l := by
  refine ⟨c.log ++ c.accumulator.reset.2 ++ [⟨.warn, (ChannelError.malformed fault).message⟩], ?_⟩
  intro l h
  obtain ⟨enough, h⟩ := h.listen
  refine ⟨enough + 1, ?_⟩
  intro polls rounds hpolls hrounds
  obtain ⟨polls, rfl⟩ := Nat.exists_eq_add_of_le' (Nat.le_of_add_left_le hpolls)
  rw [← h rounds (Nat.le_of_succ_le hrounds)]
  simp only [listenRound, receiveEvent, run_bind,
    run_nextMessage_of_idle hpending (goes_of_quiet hstopped), if_true, run_receive hreceive,
    harrival, hdecode, hstopped, Bool.false_or]
  rfl

end

/-- All that is pending is dispatched before anything else. The fold may go on from any events. -/
theorem settles_of_drained (c : Channel σ) : ∃ events held,
    (∀ prior, c.pending.foldl (deliver c.options.rawDelivery) (prior, c.accumulator.records) =
      (prior ++ events, held)) ∧
    ∀ l, Settles { c with pending := [], accumulator := ⟨held⟩ } l →
      Settles c { l with events := events ++ l.events } := by
  obtain ⟨pending, hpending⟩ : ∃ pending, c.pending = pending := ⟨_, rfl⟩
  rw [hpending]
  induction pending generalizing c with
  | nil =>
      refine ⟨[], c.accumulator.records, fun prior => ?_, fun l h => ?_⟩
      · rw [List.foldl_nil, List.append_nil]
      · rw [← hpending] at h
        exact h
  | cons m pending ih =>
      rcases hdispatch : c.accumulator.dispatch c.options.rawDelivery m with ⟨event, acc⟩
      obtain ⟨events, held, hfold, hsettles⟩ := ih { c with pending, accumulator := acc } rfl
      refine ⟨event.toList ++ events, held, fun prior => ?_, fun l h => ?_⟩
      · rw [List.foldl_cons, deliver_eq_dispatch, hdispatch, hfold, List.append_assoc]
      · have hlater : Settles { c with
            pending, accumulator := (c.accumulator.dispatch c.options.rawDelivery m).2 }
            { l with events := events ++ l.events } := by
          rw [hdispatch]
          exact hsettles l h
        have hnext := settles_of_pending hpending hlater
        rw [hdispatch] at hnext
        rw [List.append_assoc]
        exact hnext

end

/-! ### Scripts -/

/-- The items that end listening: the stop signal is raised, or the transport fails. -/
def endsListening : Script.Item → Bool
  | .stop | .failure _ => true
  | .datagram _ | .nothing => false

/-- The items before the first one that ends listening. -/
def heard (items : List Script.Item) : List Script.Item :=
  items.takeWhile fun item => !endsListening item

/-- What listening gives back when an item has ended it. -/
def resultOf : Script.Item → Except ChannelError Unit
  | .failure errno => .error (.transport errno)
  | _ => .ok ()

/-- What an item does to the events so far and to the records held back. A datagram is cut to the
buffer that it is received into; one that cannot be read drops the records held back. -/
def hear (raw : Bool) (state : List Event × List Message) :
    Script.Item → List Event × List Message
  | .datagram data =>
    match Datagram.decode (data.take receiveBufferSize) with
    | .ok messages => messages.foldl (deliver raw) state
    | .error _ => (state.1, [])
  | _ => state

theorem receive_script {s : Script} {item : Script.Item} {items : List Script.Item}
    (hitems : s.items = item :: items) (wait : Wait) :
    Transport.receive s wait = (item.reception, { s with items }) := by
  simp only [Transport.receive, Script.receive, hitems]

theorem settles_of_script {front : List Script.Item} {last : Script.Item}
    {rest : List Script.Item} (hfront : ∀ item ∈ front, endsListening item = false)
    (hlast : endsListening last = true) (c : Channel Script)
    (hitems : c.transport.items = front ++ last :: rest) (hstopped : c.stopped = false) :
    ∃ events held log,
      (∀ prior, front.foldl (hear c.options.rawDelivery)
        (c.pending.foldl (deliver c.options.rawDelivery) (prior, c.accumulator.records)) =
          (prior ++ events, held)) ∧
      Settles c ⟨events, resultOf last, { c with
        transport := { c.transport with items := rest }, stopped := last.reception.stop
        pending := [], accumulator := ⟨held⟩, log }⟩ := by
  induction front generalizing c with
  | nil =>
      obtain ⟨events, held, hdrained, hsettles⟩ := settles_of_drained c
      have hreceive := receive_script hitems .poll
      refine ⟨events, held, c.log, hdrained, ?_⟩
      rw [← List.append_nil events]
      refine hsettles ⟨[], _, _⟩ ?_
      cases last with
      | stop => exact settles_of_nothing rfl hstopped hreceive rfl (settles_of_stopped rfl rfl)
      | failure errno =>
          exact settles_of_failure (c := { c with pending := [], accumulator := ⟨held⟩ }) rfl
            hstopped hreceive rfl
      | datagram data => cases hlast
      | nothing => cases hlast
  | cons item front ih =>
      obtain ⟨events, held, hdrained, hsettles⟩ := settles_of_drained c
      have hreceive := receive_script hitems .poll
      have hfront' := fun item' hitem' => hfront item' (List.mem_cons_of_mem item hitem')
      -- What the item brings, and the channel that has received it.
      obtain ⟨messages, acc, log, hheard, hreceived⟩ : ∃ messages acc log,
          (∀ prior, hear c.options.rawDelivery (prior, held) item =
            messages.foldl (deliver c.options.rawDelivery) (prior, acc.records)) ∧
          ∀ l, Settles { c with
              transport := { c.transport with items := front ++ last :: rest }, stopped := false
              pending := messages, accumulator := acc, log } l →
            Settles { c with pending := [], accumulator := ⟨held⟩ } l := by
        cases item with
        | datagram data =>
            simp only [hear]
            cases hdecode : Datagram.decode (data.take receiveBufferSize) with
            | ok messages =>
                refine ⟨messages, ⟨held⟩, c.log, fun prior => rfl, fun l h => ?_⟩
                exact settles_of_messages rfl hstopped hreceive rfl hdecode h
            | error fault =>
                obtain ⟨log, h⟩ := settles_of_malformed
                  (c := { c with pending := [], accumulator := ⟨held⟩ }) rfl hstopped hreceive rfl
                  hdecode
                exact ⟨[], {}, log, fun prior => rfl, h⟩
        | nothing =>
            refine ⟨[], ⟨held⟩, c.log, fun prior => rfl, fun l h => ?_⟩
            exact settles_of_nothing rfl hstopped hreceive rfl h
        | stop => exact absurd (hfront _ List.mem_cons_self) Bool.noConfusion
        | failure errno => exact absurd (hfront _ List.mem_cons_self) Bool.noConfusion
      obtain ⟨events', held', log', hfold, h⟩ := ih hfront' { c with
        transport := { c.transport with items := front ++ last :: rest }, stopped := false
        pending := messages, accumulator := acc, log } rfl rfl
      refine ⟨events ++ events', held', log', fun prior => ?_, hsettles _ (hreceived _ h)⟩
      rw [List.foldl_cons, hdrained, hheard, ← List.append_assoc]
      exact hfold (prior ++ events)

/-- A script in which some item ends listening is what is heard, the first such item, and a rest. -/
theorem exists_eq_heard_append {items : List Script.Item}
    (h : ∃ item ∈ items, endsListening item = true) : ∃ last rest,
      items = heard items ++ last :: rest ∧ endsListening last = true ∧
      ∀ item ∈ heard items, endsListening item = false := by
  have hheard : ∀ item ∈ heard items, endsListening item = false := by
    intro item hitem
    have hquiet := List.mem_takeWhile_imp (p := fun item => !endsListening item) hitem
    rwa [Bool.not_eq_true'] at hquiet
  rcases hrest : items.dropWhile (fun item => !endsListening item) with _ | ⟨last, rest⟩
  · obtain ⟨item, hitem, hends⟩ := h
    have hquiet := List.dropWhile_eq_nil_iff.1 hrest item hitem
    rw [hends] at hquiet
    cases hquiet
  · have hlast := List.head?_dropWhile_not (fun item => !endsListening item) items
    rw [hrest] at hlast
    refine ⟨last, rest, ?_, ?_, hheard⟩
    · rw [heard, ← hrest, List.takeWhile_append_dropWhile]
    · exact (Bool.not_eq_false' _).mp hlast

/-- What listening delivers and how it ends. Over a script in which the stop signal is raised or the
transport fails, listening ends with the first such item: it has delivered the events of what was
pending and then of what was received before that item, and receives nothing behind it. With the
stop signal raised from the beginning it delivers the events of what is pending and receives
nothing. -/
theorem listen_delivers :
    (∀ c : Channel Script, c.stopped = false →
      (∃ item ∈ c.transport.items, endsListening item = true) →
      ∃ last rest events held log,
        c.transport.items = heard c.transport.items ++ last :: rest ∧ endsListening last = true ∧
        (heard c.transport.items).foldl (hear c.options.rawDelivery) (c.pending.foldl
          (deliver c.options.rawDelivery) ([], c.accumulator.records)) = (events, held) ∧
        ∃ enough, ∀ rounds, enough ≤ rounds → listen c rounds = ⟨events, resultOf last, { c with
          transport := { c.transport with items := rest }, stopped := last.reception.stop
          pending := [], accumulator := ⟨held⟩, log }⟩) ∧
    (∀ (σ : Type) [Transport σ] (c : Channel σ), c.stopped = true →
      ∃ events held, c.pending.foldl (deliver c.options.rawDelivery) ([], c.accumulator.records) =
          (events, held) ∧
        ∃ enough, ∀ rounds, enough ≤ rounds →
          listen c rounds = ⟨events, .ok (), { c with pending := [], accumulator := ⟨held⟩ }⟩) := by
  refine ⟨?_, ?_⟩
  · intro c hstopped hends
    obtain ⟨last, rest, hitems, hlast, hheard⟩ := exists_eq_heard_append hends
    obtain ⟨events, held, log, hfold, hsettles⟩ :=
      settles_of_script hheard hlast c hitems hstopped
    exact ⟨last, rest, events, held, log, hitems, hlast, hfold [], hsettles.listen⟩
  · intro σ _ c hstopped
    obtain ⟨events, held, hfold, hsettles⟩ := settles_of_drained c
    refine ⟨events, held, hfold [], ?_⟩
    have h := hsettles _ (settles_of_stopped rfl hstopped)
    rw [List.append_nil] at h
    exact h.listen

/-- A record is pending. Another one is received behind nothing and a datagram that cannot be read,
then the transport fails. -/
def failing : Channel Script where
  transport := {
    items := [.nothing, .datagram [0xFF], .datagram (Datagram.encode .syscall 0 0 [0x61]),
      .failure .notPermitted, .datagram (Datagram.encode .syscall 0 0 [0x62])] }
  pending := [Datagram.request .path 0 0 [0x63], Datagram.request .endOfEvent 0 0 []]

theorem listen_delivers_failing :
    failing.stopped = false ∧ ∃ enough log, ∀ rounds, enough ≤ rounds →
      listen failing rounds =
        ⟨[⟨Datagram.request .endOfEvent 0 0 [], [Datagram.request .path 0 0 [0x63]]⟩,
            ⟨Datagram.request .syscall 0 0 [0x61], []⟩],
          .error (.transport .notPermitted), { failing with
            transport := { items := [.datagram (Datagram.encode .syscall 0 0 [0x62])] }
            pending := [], log }⟩ := by
  have hends : ∃ item ∈ failing.transport.items, endsListening item = true :=
    ⟨.failure .notPermitted, by simp [failing], rfl⟩
  obtain ⟨last, rest, events, held, log, hitems, -, hfold, enough, hlisten⟩ :=
    listen_delivers.1 failing rfl hends
  obtain ⟨rfl, rfl⟩ := List.cons.inj (List.append_cancel_left
    (show heard failing.transport.items ++ [_, _] = _ ++ last :: rest from hitems))
  have hevents : (heard failing.transport.items).foldl (hear failing.options.rawDelivery)
      (failing.pending.foldl (deliver failing.options.rawDelivery)
        ([], failing.accumulator.records)) =
      ([⟨Datagram.request .endOfEvent 0 0 [], [Datagram.request .path 0 0 [0x63]]⟩,
        ⟨Datagram.request .syscall 0 0 [0x61], []⟩], []) := by decide +kernel
  obtain ⟨rfl, rfl⟩ := Prod.mk.inj (hevents.symm.trans hfold)
  exact ⟨rfl, enough, log, hlisten⟩

end LinuxAudit.Channel
