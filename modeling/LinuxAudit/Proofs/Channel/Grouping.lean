import Mathlib
import LinuxAudit.Proofs.Channel.Conservation

/-! Which records a channel groups into one event. An end marker closes whatever is held back, so
the events of a run keep the records of different events apart exactly if the stream does:
`unmixed_iff_separate`. Interleaved events are mixed, `not_always_unmixed`. -/

namespace LinuxAudit

/-- All identities that the records carry are the same. -/
def SameIdentity (records : List Message) : Prop :=
  ∀ a ∈ records, ∀ b ∈ records, ∀ i j, a.id? = some i → b.id? = some j → i = j

/-- The records of an event, the closing one included, are of one identity. -/
def Event.Unmixed (event : Event) : Prop :=
  SameIdentity (event.continuations ++ [event.primary])

theorem Event.unmixed_standalone (m : Message) : Unmixed ⟨m, []⟩ := by
  intro a ha b hb i j hi hj
  rw [List.nil_append, List.mem_singleton] at ha hb
  rw [ha] at hi
  rw [hb, hi] at hj
  exact Option.some.inj hj

namespace Channel

namespace Signal

/-- An end marker closes the event under way, and a garbled datagram drops it. -/
def ends : Signal → Bool
  | streamed m => m.header.type = .endOfEvent
  | garbled => true
  | _ => false

/-- The record that a signal adds to the event under way. -/
def continuation? : Signal → Option Message
  | streamed m => if m.header.type = .path ∨ m.header.type = .processTitle then some m else none
  | _ => none

end Signal

/-- The records of a stream that belong to the event under way at its end. -/
def underWay (stream : List Signal) : List Message :=
  (stream.reverse.takeWhile fun s => !s.ends).reverse.filterMap Signal.continuation?

/-- A stream keeps different events apart: at each end marker, the records since the last end marker
or garbled datagram are of one identity, that of the end marker. -/
def Separate (stream : List Signal) : Prop :=
  ∀ before closing behind, stream = before ++ .streamed closing :: behind →
    closing.header.type = .endOfEvent → SameIdentity (underWay before ++ [closing])

theorem underWay_append_of_ends {stream : List Signal} {s : Signal} (h : s.ends = true) :
    underWay (stream ++ [s]) = [] := by
  rw [underWay, List.reverse_append, List.reverse_singleton, List.singleton_append,
    List.takeWhile_cons_of_neg]
  · rfl
  · rw [h]
    exact Bool.false_ne_true

theorem underWay_append {stream : List Signal} {s : Signal} (h : s.ends = false) :
    underWay (stream ++ [s]) = underWay stream ++ s.continuation?.toList := by
  have htake : (s :: stream.reverse).takeWhile (fun s => !s.ends) =
      s :: stream.reverse.takeWhile fun s => !s.ends := by
    rw [List.takeWhile_cons, h]
    rfl
  have htail : [s].filterMap Signal.continuation? = s.continuation?.toList := by
    cases hcontinuation : s.continuation? with
    | none => rw [List.filterMap_cons_none hcontinuation]; rfl
    | some m => rw [List.filterMap_cons_some hcontinuation]; rfl
  rw [underWay, List.reverse_append, List.reverse_singleton, List.singleton_append,
    htake, List.reverse_cons, List.filterMap_append, htail, underWay]

theorem separate_append {stream : List Signal} {s : Signal} :
    Separate (stream ++ [s]) ↔ Separate stream ∧ ∀ m, s = .streamed m →
      m.header.type = .endOfEvent → SameIdentity (underWay stream ++ [m]) := by
  constructor
  · intro h
    refine ⟨?_, ?_⟩
    · intro before closing behind heq hend
      refine h before closing (behind ++ [s]) ?_ hend
      rw [heq, List.append_assoc, List.cons_append]
    · rintro m rfl hend
      exact h stream m [] rfl hend
  · rintro ⟨h, hlast⟩ before closing behind heq hend
    rcases List.eq_nil_or_concat behind with rfl | ⟨behind', last, rfl⟩
    · obtain ⟨rfl, hs⟩ := List.append_inj' heq rfl
      exact hlast closing (List.singleton_inj.1 hs) hend
    · have hsplit : stream ++ [s] = before ++ .streamed closing :: behind' ++ [last] := by
        rw [heq, List.concat_eq_append, List.append_assoc, List.cons_append]
      exact h before closing behind' (List.append_inj' hsplit rfl).1 hend

/-- What a signal does to the events so far and to the records held back, in the absence of
requests. -/
def absorb : List Event × List Message → Signal → List Event × List Message
  | state, .streamed m => deliver false state m
  | (events, _), .garbled => (events, [])
  | state, _ => state

theorem absorb_underWay {stream : List Signal} {events : List Event} {held : List Message}
    (hheld : held = underWay stream) (s : Signal) :
    (absorb (events, held) s).2 = underWay (stream ++ [s]) := by
  cases s with
  | asked sequence =>
      rw [underWay_append rfl]
      exact hheld.trans (List.append_nil _).symm
  | answered m =>
      rw [underWay_append rfl]
      exact hheld.trans (List.append_nil _).symm
  | garbled => exact (underWay_append_of_ends rfl).symm
  | streamed m =>
      simp only [absorb, deliver, Bool.false_eq_true, if_false]
      by_cases hcontinuation : m.header.type = .path ∨ m.header.type = .processTitle
      · have hend : (Signal.streamed m).ends = false := by
          rcases hcontinuation with h | h
          · rw [Signal.ends, h]
            rfl
          · rw [Signal.ends, h]
            rfl
        rw [underWay_append hend, Signal.continuation?, if_pos hcontinuation, hheld,
          if_pos hcontinuation, Option.toList_some]
      · by_cases hend : m.header.type = .endOfEvent
        · rw [if_neg hcontinuation, if_pos hend, underWay_append_of_ends]
          exact decide_eq_true hend
        · rw [if_neg hcontinuation, if_neg hend, underWay_append, Signal.continuation?,
            if_neg hcontinuation, hheld, Option.toList_none, List.append_nil]
          exact decide_eq_false hend

theorem absorb_unmixed_iff {events : List Event} {held : List Message} (s : Signal) :
    (∀ event ∈ (absorb (events, held) s).1, event.Unmixed) ↔
      (∀ event ∈ events, event.Unmixed) ∧ ∀ m, s = .streamed m →
        m.header.type = .endOfEvent → SameIdentity (held ++ [m]) := by
  have hone (event : Event) : (∀ e ∈ events ++ [event], e.Unmixed) ↔
      (∀ e ∈ events, e.Unmixed) ∧ event.Unmixed := by
    rw [List.forall_mem_append, List.forall_mem_singleton]
  cases s with
  | asked sequence => exact ⟨fun h => ⟨h, fun m hm => nomatch hm⟩, And.left⟩
  | answered m => exact ⟨fun h => ⟨h, fun m hm => nomatch hm⟩, And.left⟩
  | garbled => exact ⟨fun h => ⟨h, fun m hm => nomatch hm⟩, And.left⟩
  | streamed m =>
      simp only [absorb, deliver, Bool.false_eq_true, if_false]
      by_cases hend : m.header.type = .endOfEvent
      · have hcontinuation : ¬(m.header.type = .path ∨ m.header.type = .processTitle) := by
          rw [hend]
          decide
        rw [if_neg hcontinuation, if_pos hend, hone]
        refine and_congr_right fun _ => ⟨?_, fun h => h m rfl hend⟩
        intro h m' hm' _
        rw [← Signal.streamed.inj hm']
        exact h
      · have hvacuous : ∀ m', Signal.streamed m = .streamed m' →
            m'.header.type = .endOfEvent → SameIdentity (held ++ [m']) := by
          intro m' hm' hend'
          rw [← Signal.streamed.inj hm'] at hend'
          exact absurd hend' hend
        rw [if_neg hend]
        by_cases hcontinuation : m.header.type = .path ∨ m.header.type = .processTitle
        · rw [if_pos hcontinuation]
          exact ⟨fun h => ⟨h, hvacuous⟩, And.left⟩
        · rw [if_neg hcontinuation, hone]
          exact ⟨fun h => ⟨h.1, hvacuous⟩, fun h => ⟨h.1, Event.unmixed_standalone m⟩⟩

/-- What is held back is what belongs to the event under way, and the events are unmixed exactly if
the stream keeps them apart. -/
theorem absorb_all (stream : List Signal) :
    (stream.foldl absorb ([], [])).2 = underWay stream ∧
      ((∀ event ∈ (stream.foldl absorb ([], [])).1, event.Unmixed) ↔ Separate stream) := by
  induction stream using List.reverseRecOn with
  | nil =>
      refine ⟨rfl, ?_, ?_⟩
      · intro _ before closing behind heq
        exact absurd heq.symm (List.append_ne_nil_of_right_ne_nil before (List.cons_ne_nil _ _))
      · intro _ event hevent
        cases hevent
  | append_singleton stream s ih =>
      obtain ⟨hheld, hunmixed⟩ := ih
      rw [List.foldl_append, List.foldl_cons, List.foldl_nil, separate_append, ← hunmixed, ← hheld]
      exact ⟨absorb_underWay hheld s, absorb_unmixed_iff s⟩

/-- Records that are held back already are taken as the beginning of the stream. -/
theorem absorb_held {held : List Message}
    (hheld : ∀ m ∈ held, m.header.type = .path ∨ m.header.type = .processTitle) :
    (held.map .streamed).foldl absorb ([], []) = ([], held) := by
  induction held using List.reverseRecOn with
  | nil => rfl
  | append_singleton held m ih =>
      have hm := hheld m (List.mem_append_right held (List.mem_singleton_self m))
      rw [List.map_append, List.foldl_append, ih fun m' hm' =>
        hheld m' (List.mem_append_left [m] hm')]
      simp only [List.map_cons, List.map_nil, List.foldl_cons, List.foldl_nil, absorb, deliver,
        Bool.false_eq_true, if_false, if_pos hm]

section

variable {σ : Type} {p p' p'' : Progress (Tapped σ)}

/-- Between two points of a run the channel has taken signals off the front of the stream, and the
events and the records held back are what they make of them. -/
def Absorbs (p p' : Progress (Tapped σ)) : Prop :=
  ∃ new processed, p'.channel.signals = p.channel.signals ++ new ∧
    p.channel.pending.map .streamed ++ new = processed ++ p'.channel.pending.map .streamed ∧
    (p'.events, p'.channel.accumulator.records) =
      processed.foldl absorb (p.events, p.channel.accumulator.records)

theorem Absorbs.refl (p : Progress (Tapped σ)) : Absorbs p p :=
  ⟨[], [], (List.append_nil _).symm, List.append_nil _, rfl⟩

theorem Absorbs.trans (h : Absorbs p p') (h' : Absorbs p' p'') : Absorbs p p'' := by
  obtain ⟨new, processed, hsignals, hpending, hevents⟩ := h
  obtain ⟨more, processed', hsignals', hpending', hevents'⟩ := h'
  refine ⟨new ++ more, processed ++ processed', ?_, ?_, ?_⟩
  · rw [hsignals', hsignals, List.append_assoc]
  · calc p.channel.pending.map .streamed ++ (new ++ more)
        = processed ++ (p'.channel.pending.map .streamed ++ more) := by
          rw [← List.append_assoc, hpending, List.append_assoc]
      _ = processed ++ processed' ++ p''.channel.pending.map .streamed := by
          rw [hpending', List.append_assoc]
  · rw [hevents', hevents, List.foldl_append]

end

section

variable {σ : Type} [Transport σ] (p : Progress (Tapped σ))

theorem step_absorbs (hraw : p.channel.options.rawDelivery = false) (mode : ReceiveMode)
    (polls : Nat) :
    Absorbs p (p.step (.receiveEvent mode polls)) ∧
      (p.step (.receiveEvent mode polls)).channel.options.rawDelivery = false := by
  obtain ⟨result, new, c, hmoved, htakes, -, houtcome⟩ :=
    receiveEvent_outcome p.channel mode polls
  have haccumulator := hmoved.accumulator
  have hoptions : c.options.rawDelivery = false := hmoved.options ▸ hraw
  rw [Absorbs, Progress.step, houtcome]
  rcases htakes.eq_or_eq with ⟨m, ms, hm, rfl, hsplit⟩ | ⟨hnone, hbefore, hafter, hnew⟩
  · have hclean : Signal.garbled ∉ ms.map Signal.streamed := by
      simp only [List.mem_map, not_exists, not_and]
      intro m' _ hm'
      cases hm'
    rw [if_neg hclean] at haccumulator
    rw [hm]
    refine ⟨⟨ms.map .streamed, [.streamed m], hmoved.signals, ?_, ?_⟩, hoptions⟩
    · rw [← List.map_append, hsplit]
      rfl
    · simp only [hoptions, haccumulator]
      exact (deliver_eq_dispatch false p.events p.channel.accumulator m).symm
  · rw [hnone]
    refine ⟨⟨new, new, hmoved.signals, ?_, ?_⟩, hoptions⟩
    · simp only [hbefore, hafter, List.map_nil, List.nil_append, List.append_nil]
    · rcases hnew with rfl | rfl
      · rw [if_neg List.not_mem_nil] at haccumulator
        simp only [haccumulator, Option.toList_none, List.append_nil, List.foldl_nil]
      · rw [if_pos (List.mem_singleton_self _)] at haccumulator
        simp only [haccumulator, Option.toList_none, List.append_nil, List.foldl_cons,
          List.foldl_nil, absorb]

/-- The receives of a list, as operations. -/
def receives (calls : List (ReceiveMode × Nat)) : List Operation :=
  calls.map fun call => .receiveEvent call.1 call.2

theorem receives_absorb (hraw : p.channel.options.rawDelivery = false)
    (calls : List (ReceiveMode × Nat)) :
    Absorbs p ((receives calls).foldl Progress.step p) := by
  induction calls generalizing p with
  | nil => exact .refl p
  | cons call calls ih =>
      obtain ⟨hstep, hraw'⟩ := step_absorbs p hraw call.1 call.2
      exact hstep.trans (ih _ hraw')

end

/-- The exact condition under which no event of a run of receives mixes records of different events.
What was received is a stream, of which the run has processed a part and left the rest pending; its
events are unmixed exactly if the part processed keeps different events apart. -/
theorem unmixed_iff_separate {σ : Type} [Transport σ] (c : Channel σ)
    (hraw : c.options.rawDelivery = false)
    (hheld : ∀ m ∈ c.accumulator.records, m.header.type = .path ∨ m.header.type = .processTitle)
    (calls : List (ReceiveMode × Nat)) :
    ∃ processed,
      (c.accumulator.records ++ c.pending).map .streamed ++
          (run c.tapped (receives calls)).channel.signals =
        processed ++ (run c (receives calls)).channel.pending.map .streamed ∧
      ((∀ event ∈ (run c (receives calls)).events, event.Unmixed) ↔ Separate processed) := by
  obtain ⟨new, processed, hsignals, hpending, hevents⟩ :=
    receives_absorb { channel := c.tapped } hraw calls
  rw [show c.tapped.signals = [] from rfl, List.nil_append] at hsignals
  have hall := (absorb_all (c.accumulator.records.map .streamed ++ processed)).2
  rw [List.foldl_append, absorb_held hheld] at hall
  rw [← run_tapped c (receives calls)]
  refine ⟨c.accumulator.records.map .streamed ++ processed, ?_, ?_⟩
  · rw [run, hsignals, List.map_append, List.append_assoc, List.append_assoc]
    exact congrArg (_ ++ ·) hpending
  · rw [← hall]
    exact iff_of_eq (congrArg (fun state => ∀ event ∈ state.1, Event.Unmixed event) hevents)

/-! ### Interleaved events -/

/-- A record as it is read back. -/
def record (type : MessageType) (text : String) : Message :=
  Datagram.request type 0 0 (Utf8.encode text)

/-- The records of two events, one after the other, and the end marker of the first. -/
def interleavedRecords : List Message :=
  [record .path "audit(1.000:1): item=0", record .path "audit(1.000:2): item=0",
    record .endOfEvent "audit(1.000:1): "]

/-- A channel that receives the records of two events, each in a datagram of its own. -/
def interleaved : Channel Script where
  transport := {
    items := interleavedRecords.map fun m =>
      .datagram (Datagram.encode m.header.type 0 0 m.payload) }

def threeReceives : List (ReceiveMode × Nat) :=
  [(.nonBlocking, 1), (.nonBlocking, 1), (.nonBlocking, 1)]

theorem exists_mixed_event :
    ∃ event ∈ (run interleaved (receives threeReceives)).events, ¬event.Unmixed := by
  refine ⟨⟨record .endOfEvent "audit(1.000:1): ", [record .path "audit(1.000:1): item=0",
    record .path "audit(1.000:2): item=0"]⟩, by decide +kernel, fun h => ?_⟩
  have hid := h (record .path "audit(1.000:1): item=0") (by decide +kernel)
    (record .path "audit(1.000:2): item=0") (by decide +kernel) ⟨1, 0, 1⟩ ⟨1, 0, 2⟩
    (by decide +kernel) (by decide +kernel)
  exact absurd hid (by decide)

/-- A run of receives can deliver an event that mixes the records of two events. -/
theorem not_always_unmixed :
    ¬∀ (c : Channel Script) (calls : List (ReceiveMode × Nat)),
      c.options.rawDelivery = false → c.accumulator.records = [] →
      ∀ event ∈ (run c (receives calls)).events, event.Unmixed := by
  intro h
  obtain ⟨event, hevent, hmixed⟩ := exists_mixed_event
  exact hmixed (h interleaved threeReceives rfl rfl event hevent)

theorem unmixed_iff_separate_interleaved :
    interleaved.options.rawDelivery = false ∧ interleaved.accumulator.records = [] ∧
      ¬Separate (interleavedRecords.map .streamed) := by
  have hheld : ∀ m ∈ interleaved.accumulator.records,
      m.header.type = .path ∨ m.header.type = .processTitle := by
    intro m hm
    cases hm
  obtain ⟨processed, hstream, hiff⟩ := unmixed_iff_separate interleaved rfl hheld threeReceives
  have hsignals : (run interleaved.tapped (receives threeReceives)).channel.signals =
      interleavedRecords.map .streamed := by decide +kernel
  have hpending : (run interleaved (receives threeReceives)).channel.pending = [] := by
    decide +kernel
  rw [hsignals, hpending, List.map_nil, List.append_nil] at hstream
  refine ⟨rfl, rfl, ?_⟩
  rw [show interleavedRecords.map Signal.streamed = processed from hstream, ← hiff]
  obtain ⟨event, hevent, hmixed⟩ := exists_mixed_event
  exact fun h => hmixed (h event hevent)

end Channel

end LinuxAudit
