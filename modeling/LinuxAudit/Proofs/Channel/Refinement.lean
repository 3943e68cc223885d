import Mathlib
import LinuxAudit.Proofs.Channel.Kernel
import LinuxAudit.Proofs.Rule.Drafting
import LinuxAudit.Proofs.Rule.WireFormat

/-! What a channel over a kernel in memory amounts to: a list of rules without duplicates, and two
registers. Each operation answers as this `Reference` does and leaves the two in agreement,
`follows`, and so do runs of operations, whatever waits in the inbox: `transcript_refines`. -/

namespace LinuxAudit

open Channel

theorem Rule.WellFormed.decode_encode {rule : Rule} (h : rule.WellFormed) :
    Rule.decode rule.encode = .ok rule := by
  have hdecode := Rule.decode_encode_append h []
  rwa [List.append_nil] at hdecode

theorem Rule.WithinLimits.withTarget {rule : Rule} (h : rule.WithinLimits) (list : FilterList)
    (action : Action) : (rule.withTarget list action).WithinLimits :=
  ⟨h.fields, h.texts, h.trailer⟩

/-- What a kernel keeps: the installed rules, oldest first and each once, and two registers. -/
structure Reference where
  rules : List Rule
  distinct : rules.Nodup
  enabled : UInt32
  pid : UInt32

/-- An answer is an error or, to those who ask for it, a status. -/
abbrev Answer : Type :=
  Except ChannelError (Option Status)

namespace Reference

def fresh : Reference :=
  ⟨[], List.nodup_nil, 0, 0⟩

def install (s : Reference) (rule : Rule) : Except ChannelError Reference :=
  if h : rule ∈ s.rules then .error .duplicateRule
  else .ok { s with
    rules := s.rules ++ [rule]
    distinct := List.nodup_append.2 ⟨s.distinct, List.nodup_singleton rule, by
      rintro a ha b hb rfl
      exact h (List.mem_singleton.1 hb ▸ ha)⟩ }

def delete (s : Reference) (rule : Rule) : Except ChannelError Reference :=
  if rule ∈ s.rules then .ok { s with
    rules := s.rules.erase rule
    distinct := s.distinct.erase rule }
  else .error .ruleNotFound

def status (s : Reference) : Status :=
  { enabled := s.enabled, pid := s.pid }

theorem install_of_not_mem {s : Reference} {rule : Rule} (h : rule ∉ s.rules) : ∃ s',
    s.install rule = .ok s' ∧ s'.rules = s.rules ++ [rule] ∧ s'.status = s.status :=
  ⟨_, dif_neg h, rfl, rfl⟩

theorem delete_of_mem {s : Reference} {rule : Rule} (h : rule ∈ s.rules) : ∃ s',
    s.delete rule = .ok s' ∧ s'.rules = s.rules.erase rule ∧ s'.status = s.status :=
  ⟨_, if_pos h, rfl, rfl⟩

/-- What an attempt answers, and what it leaves behind: nothing changes if it fails. -/
def attempt (s : Reference) : Except ChannelError Reference → Option Answer × Reference
  | .ok s' => (some (.ok none), s')
  | .error e => (some (.error e), s)

/-- What an operation answers, and what it leaves behind. A receive asks nothing of the kernel. -/
def step (s : Reference) : Operation → Option Answer × Reference
  | .receiveEvent _ _ => (none, s)
  | .installRule rule list action => s.attempt (s.install (rule.withTarget list action))
  | .deleteRule rule list action => s.attempt (s.delete (rule.withTarget list action))
  | .setEnabled enabled => (some (.ok none), { s with enabled := if enabled then 1 else 0 })
  | .registerListener pid => (some (.ok none), { s with pid })
  | .status => (some (.ok (some s.status)), s)

end Reference

namespace Channel

section

variable {σ : Type} [Transport σ]

/-- An operation carried out for its answer. -/
def Operation.inquiry : Operation → Task σ (Option Status)
  | .status => do return some (← Channel.status)
  | op => do
    let _ ← op.task
    return none

/-- The request that an operation consists of, if it gives nothing back. -/
def Operation.request? : Operation → Option (MessageType × Bytes)
  | installRule rule list action => some (.addRule, (rule.withTarget list action).encode)
  | deleteRule rule list action => some (.deleteRule, (rule.withTarget list action).encode)
  | setEnabled enabled => some (.setStatus, (Status.enabling enabled).encode)
  | registerListener pid => some (.setStatus, (Status.listening pid).encode)
  | _ => none

theorem Operation.request?_type {op : Operation} {type : MessageType} {payload : Bytes}
    (h : op.request? = some (type, payload)) : ¬type.isRecord ∧ type ≠ .error := by
  cases op with
  | receiveEvent | status => cases h
  | installRule | deleteRule | setEnabled | registerListener =>
      obtain ⟨rfl, -⟩ := Prod.mk.inj (Option.some.inj h)
      decide

/-- What an operation on a channel answers, and what it leaves behind. What a receive gives came
with the inbox and is left out. -/
def ask (c : Channel σ) (op : Operation) : Option Answer × Channel σ :=
  let (answer, c) := outcomeOf op.inquiry c
  (if op.isReceive then none else some answer, c)

end

/-- What operations answer one after the other, and what they leave behind. -/
def transcript {α : Type} (step : α → Operation → Option Answer × α) (s : α) :
    List Operation → List (Option Answer) × α
  | [] => ([], s)
  | op :: ops =>
    let (answer, s) := step s op
    let (answers, s) := transcript step s ops
    (answer :: answers, s)

/-- The rule of an operation, if it has one, is within the limits. -/
def Operation.WithinLimits : Operation → Prop
  | .installRule rule _ _ | .deleteRule rule _ _ => rule.WithinLimits
  | _ => True

/-- A ready channel over a kernel that keeps what a reference keeps. -/
structure Represents (c : Channel Kernel) (s : Reference) : Prop extends Ready c where
  wellFormed : ∀ rule ∈ s.rules, rule.WellFormed
  rules : c.transport.rules = s.rules.map Rule.encode
  status : c.transport.status = s.status

section

variable {c : Channel Kernel} {s : Reference} {rule : Rule}

theorem Represents.contains_iff (h : Represents c s) (hrule : rule.WellFormed) :
    c.transport.rules.contains rule.encode ↔ rule ∈ s.rules := by
  rw [h.rules, List.contains_iff_mem, List.mem_map]
  constructor
  · rintro ⟨other, hmem, heq⟩
    rwa [← Rule.encode_injective (h.wellFormed other hmem) hrule heq]
  · intro hmem
    exact ⟨rule, hmem, rfl⟩

theorem erase_encode {rules : List Rule} (hrules : ∀ rule ∈ rules, rule.WellFormed)
    (hrule : rule.WellFormed) :
    (rules.map Rule.encode).erase rule.encode = (rules.erase rule).map Rule.encode := by
  induction rules with
  | nil => rfl
  | cons other rules ih =>
      have ih := ih fun rule hmem => hrules rule (List.mem_cons_of_mem _ hmem)
      have hother := hrules other List.mem_cons_self
      by_cases heq : other = rule
      · rw [heq, List.map_cons, List.erase_cons_head, List.erase_cons_head]
      · have hne : other.encode ≠ rule.encode :=
          fun h => heq (Rule.encode_injective hother hrule h)
        rw [List.map_cons, List.erase_cons_tail (by simpa using hne),
          List.erase_cons_tail (by simpa using heq), List.map_cons, ih]

theorem Represents.logged (h : Represents c s) (log : List Log.Entry) :
    Represents { c with log } s :=
  { h with }

/-- A receive takes from the inbox only. -/
theorem Represents.receive (h : Represents c s) (wait : Wait) :
    Ends (receive wait) c fun _ c' => Represents c' s := by
  cases hinbox : c.transport.inbox with
  | nil =>
      have hreceive : Transport.receive c.transport wait =
          (⟨.nothing, c.transport.stopsWhenDrained⟩, c.transport) := by
        simp only [Transport.receive, Kernel.receive, hinbox]
      rw [Ends, run_receive hreceive]
      exact { h with }
  | cons data inbox =>
      refine ends_receive hinbox fun c' hread => ?_
      have hrest : ∀ data ∈ inbox, Kernel.Unsolicited data :=
        fun data hdata => h.inbox data (hinbox ▸ List.mem_cons_of_mem _ hdata)
      refine ⟨h.toReady.of_hasRead rfl rfl rfl hread hrest, h.wellFormed, ?_, ?_⟩
      · rw [hread.transport, h.rules]
      · rw [hread.transport, h.status]

variable {type : MessageType} {payload : Bytes}
  (hfits : Datagram.declared payload ≤ maxMessageLength) (htype : ¬type.isRecord)
  (herror : type ≠ .error)

include hfits htype herror

/-- A request that the kernel carries out as the reference does. -/
theorem Represents.performed (h : Represents c s) {k : Kernel} {s' : Reference}
    (hperform : c.transport.perform (c.nextRequest type payload) = .ok k)
    (hwellFormed : ∀ rule ∈ s'.rules, rule.WellFormed)
    (hrules : k.rules = s'.rules.map Rule.encode) (hstatus : k.status = s'.status) :
    Ends (request type payload) c fun result c' => result = .ok (if type = .getStatus then
        some (Datagram.request .getStatus 0 (nextSequence c.sequence) s.status.encode)
      else none) ∧ Represents c' s' := by
  refine (request_performed h.toReady hfits htype herror hperform).mono ?_
  rintro result c' ⟨hresult, hready, hrules', hstatus'⟩
  rw [h.status] at hresult
  exact ⟨hresult, hready, hwellFormed, hrules'.trans hrules, hstatus'.trans hstatus⟩

theorem Represents.refused (h : Represents c s) {errno : Errno}
    (hperform : c.transport.perform (c.nextRequest type payload) = .error errno) :
    Ends (request type payload) c fun result c' => result = .error (.ofErrorCode errno.code) ∧
      Represents c' s := by
  refine (request_refused h.toReady hfits htype herror hperform).mono ?_
  rintro result c' ⟨hresult, hready, hrules, hstatus⟩
  exact ⟨hresult, hready, h.wellFormed, hrules.trans h.rules, hstatus.trans h.status⟩

end

/-! ### Operations -/

/-- An operation on a channel answers as the reference does, and leaves the two in agreement. -/
def Follows (c : Channel Kernel) (s : Reference) (op : Operation) : Prop :=
  (ask c op).1 = (s.step op).1 ∧ Represents (ask c op).2 (s.step op).2

theorem follows_of_ends {c : Channel Kernel} {s : Reference} {op : Operation}
    (hop : op.isReceive = false) (h : Ends op.inquiry c fun answer c' =>
      some answer = (s.step op).1 ∧ Represents c' (s.step op).2) : Follows c s op := by
  obtain ⟨hanswer, hstate⟩ := ends_iff.1 h
  refine ⟨?_, hstate⟩
  rw [← hanswer, ask, hop]
  rfl

/-- Behind its request an operation only writes to the log. -/
theorem follows_of_request {c : Channel Kernel} {s : Reference} {op : Operation}
    {type : MessageType} {payload : Bytes} (hop : op.request? = some (type, payload))
    (h : Ends (request type payload) c fun result c' =>
      some (result.map fun _ => none) = (s.step op).1 ∧ Represents c' (s.step op).2) :
    Follows c s op := by
  have hends (level : Log.Level) (text : String) : Ends
      (do
        let _ ← (do
          (do
            let _ ← request type payload
            note level text)
          return (none : Option Event))
        return (none : Option Status)) c fun answer c' =>
        some answer = (s.step op).1 ∧ Represents c' (s.step op).2 := by
    simp only [note, ends_bind, ends_modify]
    refine h.mono ?_
    rintro result c' ⟨hanswer, hstate⟩
    cases result with
    | ok reply => exact ⟨hanswer, hstate.logged _⟩
    | error e => exact ⟨hanswer, hstate⟩
  cases op with
  | receiveEvent | status => cases hop
  | installRule | deleteRule | setEnabled | registerListener =>
      obtain ⟨rfl, rfl⟩ := Prod.mk.inj (Option.some.inj hop)
      exact follows_of_ends rfl (hends _ _)

section

variable {c : Channel Kernel} {s : Reference} (h : Represents c s)

include h

theorem follows_performed {op : Operation} {type : MessageType} {payload : Bytes}
    (hop : op.request? = some (type, payload))
    (hfits : Datagram.declared payload ≤ maxMessageLength) {k : Kernel} {s' : Reference}
    (hperform : c.transport.perform (c.nextRequest type payload) = .ok k)
    (hstep : s.step op = (some (.ok none), s')) (hwellFormed : ∀ rule ∈ s'.rules, rule.WellFormed)
    (hrules : k.rules = s'.rules.map Rule.encode) (hstatus : k.status = s'.status) :
    Follows c s op := by
  obtain ⟨htype, herror⟩ := op.request?_type hop
  refine follows_of_request hop ?_
  refine (h.performed hfits htype herror hperform hwellFormed hrules hstatus).mono ?_
  rintro _ c' ⟨rfl, h'⟩
  rw [hstep]
  exact ⟨rfl, h'⟩

theorem follows_refused {op : Operation} {type : MessageType} {payload : Bytes}
    (hop : op.request? = some (type, payload))
    (hfits : Datagram.declared payload ≤ maxMessageLength) {errno : Errno}
    (hperform : c.transport.perform (c.nextRequest type payload) = .error errno)
    (hstep : s.step op = (some (.error (.ofErrorCode errno.code)), s)) : Follows c s op := by
  obtain ⟨htype, herror⟩ := op.request?_type hop
  refine follows_of_request hop ?_
  refine (h.refused hfits htype herror hperform).mono ?_
  rintro _ c' ⟨rfl, h'⟩
  rw [hstep]
  exact ⟨rfl, h'⟩

theorem follows_installRule {rule : Rule} (hrule : rule.WithinLimits) (list : FilterList)
    (action : Action) : Follows c s (.installRule rule list action) := by
  have htarget := hrule.withTarget list action
  have hfits := Draft.declared_encode_le htarget
  have hperform : c.transport.perform (c.nextRequest .addRule (rule.withTarget list action).encode)
      = c.transport.addRule (rule.withTarget list action).encode := Kernel.perform_addRule rfl
  rw [Kernel.addRule, htarget.wellFormed.decode_encode] at hperform
  by_cases hmem : rule.withTarget list action ∈ s.rules
  · rw [if_pos ((h.contains_iff htarget.wellFormed).2 hmem)] at hperform
    refine follows_refused h rfl hfits hperform ?_
    rw [Reference.step, Reference.install, dif_pos hmem]
    rfl
  · rw [if_neg ((h.contains_iff htarget.wellFormed).not.2 hmem)] at hperform
    obtain ⟨s', hinstall, hrules, hstatus⟩ := Reference.install_of_not_mem hmem
    have hstep : s.step (.installRule rule list action) = (some (.ok none), s') := by
      rw [Reference.step, hinstall]
      rfl
    refine follows_performed h rfl hfits hperform hstep ?_ ?_ (h.status.trans hstatus.symm)
    · rw [hrules]
      exact List.forall_mem_append.2
        ⟨h.wellFormed, List.forall_mem_singleton.2 htarget.wellFormed⟩
    · rw [hrules, List.map_append, ← h.rules]
      rfl

theorem follows_deleteRule {rule : Rule} (hrule : rule.WithinLimits) (list : FilterList)
    (action : Action) : Follows c s (.deleteRule rule list action) := by
  have htarget := hrule.withTarget list action
  have hfits := Draft.declared_encode_le htarget
  have hperform : c.transport.perform
      (c.nextRequest .deleteRule (rule.withTarget list action).encode) =
        c.transport.deleteRule (rule.withTarget list action).encode :=
    Kernel.perform_deleteRule rfl
  rw [Kernel.deleteRule, htarget.wellFormed.decode_encode] at hperform
  by_cases hmem : rule.withTarget list action ∈ s.rules
  · rw [if_pos ((h.contains_iff htarget.wellFormed).2 hmem)] at hperform
    obtain ⟨s', hdelete, hrules, hstatus⟩ := Reference.delete_of_mem hmem
    have hstep : s.step (.deleteRule rule list action) = (some (.ok none), s') := by
      rw [Reference.step, hdelete]
      rfl
    refine follows_performed h rfl hfits hperform hstep ?_ ?_ (h.status.trans hstatus.symm)
    · rw [hrules]
      exact fun other hother => h.wellFormed other (List.mem_of_mem_erase hother)
    · rw [hrules, ← erase_encode h.wellFormed htarget.wellFormed, ← h.rules]
  · rw [if_neg ((h.contains_iff htarget.wellFormed).not.2 hmem)] at hperform
    refine follows_refused h rfl hfits hperform ?_
    rw [Reference.step, Reference.delete, if_neg hmem]
    rfl

theorem follows_setEnabled (enabled : Bool) : Follows c s (.setEnabled enabled) := by
  have hperform : c.transport.perform (c.nextRequest .setStatus (Status.enabling enabled).encode) =
      .ok (c.transport.update (Status.enabling enabled)) := Kernel.perform_setStatus rfl rfl
  rw [Kernel.update_enabling] at hperform
  refine follows_performed h rfl (Status.declared_encode_le _) hperform rfl h.wellFormed h.rules ?_
  rw [h.status]
  rfl

theorem follows_registerListener (pid : UInt32) : Follows c s (.registerListener pid) := by
  have hperform : c.transport.perform (c.nextRequest .setStatus (Status.listening pid).encode) =
      .ok (c.transport.update (Status.listening pid)) := Kernel.perform_setStatus rfl rfl
  rw [Kernel.update_listening] at hperform
  refine follows_performed h rfl (Status.declared_encode_le _) hperform rfl h.wellFormed h.rules ?_
  rw [h.status]
  rfl

theorem follows_status : Follows c s .status := by
  have hperform := Kernel.perform_getStatus (k := c.transport)
    (show (c.nextRequest .getStatus []).header.type = .getStatus from rfl)
  refine follows_of_ends rfl ?_
  simp only [Operation.inquiry, Channel.status, ends_bind]
  refine (h.performed (by decide) (by decide) (by decide) hperform h.wellFormed h.rules
    h.status).mono ?_
  rintro _ c' ⟨rfl, h'⟩
  simp only [if_true, Datagram.request, Status.decode_encode]
  exact ⟨rfl, h'⟩

theorem follows_receiveEvent (mode : ReceiveMode) (polls : Nat) :
    Follows c s (.receiveEvent mode polls) := by
  have hkeeps : Ends (receiveEvent polls mode) c fun _ c' => Represents c' s := by
    refine receiveEvent_keeps (fun c wait h => h.receive wait) ?_ ?_ c h mode polls
    · exact fun c pending h => { h with }
    · exact fun c accumulator h => { h with }
  have hends : Ends (Operation.inquiry (.receiveEvent mode polls)) c fun _ c' => Represents c' s :=
    hkeeps.keep fun _ _ h' => h'
  exact ⟨rfl, ends_iff.1 hends⟩

/-- Each operation answers as the reference does, and leaves the two in agreement. -/
theorem follows {op : Operation} (hop : op.WithinLimits) : Follows c s op := by
  cases op with
  | receiveEvent mode polls => exact follows_receiveEvent h mode polls
  | installRule rule list action => exact follows_installRule h hop list action
  | deleteRule rule list action => exact follows_deleteRule h hop list action
  | setEnabled enabled => exact follows_setEnabled h enabled
  | registerListener pid => exact follows_registerListener h pid
  | status => exact follows_status h

end

/-! ### Runs -/

theorem Represents.transcript {c : Channel Kernel} {s : Reference} (h : Represents c s)
    {ops : List Operation} (hops : ∀ op ∈ ops, op.WithinLimits) :
    (transcript ask c ops).1 = (transcript Reference.step s ops).1 ∧
      Represents (transcript ask c ops).2 (transcript Reference.step s ops).2 := by
  induction ops generalizing c s with
  | nil => exact ⟨rfl, h⟩
  | cons op ops ih =>
      obtain ⟨hanswer, hstate⟩ := follows h (hops op List.mem_cons_self)
      obtain ⟨hanswers, hend⟩ := ih hstate fun op hop => hops op (List.mem_cons_of_mem _ hop)
      exact ⟨List.cons_eq_cons.2 ⟨hanswer, hanswers⟩, hend⟩

theorem Represents.decode_rules {c : Channel Kernel} {s : Reference} (h : Represents c s) :
    c.transport.rules.map Rule.decode = s.rules.map .ok := by
  rw [h.rules, List.map_map]
  refine List.map_congr_left fun rule hrule => ?_
  rw [Function.comp_apply, (h.wellFormed rule hrule).decode_encode]

/-- The value that an operation gives to the register of auditing. -/
def Operation.enables? : Operation → Option UInt32
  | setEnabled enabled => some (if enabled then 1 else 0)
  | _ => none

/-- The value that an operation gives to the register of the listener. -/
def Operation.registers? : Operation → Option UInt32
  | registerListener pid => some pid
  | _ => none

theorem step_registers (s : Reference) (op : Operation) :
    (s.step op).2.enabled = op.enables?.getD s.enabled ∧
    (s.step op).2.pid = op.registers?.getD s.pid := by
  cases op with
  | installRule rule list action =>
      rw [Reference.step, Reference.install]
      split
      · exact ⟨rfl, rfl⟩
      · exact ⟨rfl, rfl⟩
  | deleteRule rule list action =>
      rw [Reference.step, Reference.delete]
      split
      · exact ⟨rfl, rfl⟩
      · exact ⟨rfl, rfl⟩
  | _ => exact ⟨rfl, rfl⟩

theorem getLastD_filterMap_cons {α β : Type} (f : α → Option β) (a : α) (as : List α) (b : β) :
    ((a :: as).filterMap f).getLastD b = (as.filterMap f).getLastD ((f a).getD b) := by
  rw [List.filterMap_cons]
  cases f a with
  | none => rfl
  | some value => exact List.getLastD_cons

/-- Each register holds what was last given to it, whatever else happened. -/
theorem transcript_registers (s : Reference) (ops : List Operation) :
    (transcript Reference.step s ops).2.enabled =
      (ops.filterMap Operation.enables?).getLastD s.enabled ∧
    (transcript Reference.step s ops).2.pid =
      (ops.filterMap Operation.registers?).getLastD s.pid := by
  induction ops generalizing s with
  | nil => exact ⟨rfl, rfl⟩
  | cons op ops ih =>
      obtain ⟨henabled, hpid⟩ := step_registers s op
      rw [getLastD_filterMap_cons, getLastD_filterMap_cons, ← henabled, ← hpid]
      exact ih (s.step op).2

/-- A channel over a kernel that has been sent some records and oversized datagrams. -/
def overKernel (pushes : List Kernel.Push) (stopsWhenDrained : Bool) (options : Options) :
    Channel Kernel where
  transport := pushes.foldl Kernel.push { stopsWhenDrained }
  options := options

theorem represents_overKernel {pushes : List Kernel.Push} (hpushes : ∀ p ∈ pushes, p.Framed)
    (stopsWhenDrained : Bool) {options : Options} (htimeout : options.replyTimeout ≠ 0) :
    Represents (overKernel pushes stopsWhenDrained options) .fresh := by
  have hfold (k : Kernel) (hk : Represents { transport := k, options } .fresh) :
      Represents { transport := pushes.foldl Kernel.push k, options } .fresh := by
    induction pushes generalizing k with
    | nil => exact hk
    | cons p pushes ih =>
        obtain ⟨data, hpush, hdata⟩ := k.push_eq_queue (hpushes p List.mem_cons_self)
        refine ih (fun p hp => hpushes p (List.mem_cons_of_mem _ hp)) (k.push p) ?_
        rw [hpush]
        exact { hk with
          inbox := List.forall_mem_append.2 ⟨hk.inbox, List.forall_mem_singleton.2 hdata⟩ }
  exact hfold _ ⟨⟨htimeout, rfl, rfl, List.forall_mem_nil _⟩, List.forall_mem_nil _, rfl, rfl⟩

/-- A channel over a kernel that denies nothing and answers in time is a list of rules without
duplicates and two registers, whatever records and oversized datagrams wait in the inbox. In every
run of operations, with receives among them anywhere, each answer is the one of the reference: a
rule is installed at the end of the list unless it is there, deleted if it is there, and refused
otherwise without a change; and the status is what the registers hold, with zeros elsewhere. The
kernel then holds the rules of the reference, entry by entry, and each register what was last given
to it. Records whose text has 2^32 bytes or more are left out: their length wraps in the header. -/
theorem transcript_refines {pushes : List Kernel.Push} (hpushes : ∀ p ∈ pushes, p.Framed)
    (stopsWhenDrained : Bool) {options : Options} (htimeout : options.replyTimeout ≠ 0)
    {ops : List Operation} (hops : ∀ op ∈ ops, op.WithinLimits) :
    let after := transcript ask (overKernel pushes stopsWhenDrained options) ops
    let expected := transcript Reference.step .fresh ops
    after.1 = expected.1 ∧
    after.2.transport.rules.map Rule.decode = expected.2.rules.map .ok ∧
    after.2.transport.status = expected.2.status ∧
    expected.2.enabled = (ops.filterMap Operation.enables?).getLastD 0 ∧
    expected.2.pid = (ops.filterMap Operation.registers?).getLastD 0 := by
  obtain ⟨hanswers, hend⟩ :=
    (represents_overKernel hpushes stopsWhenDrained htimeout).transcript hops
  exact ⟨hanswers, hend.decode_rules, hend.status, transcript_registers .fresh ops⟩

/-- A record and an oversized datagram wait in front of every answer. -/
def crowd : List Kernel.Push :=
  [.record .syscall [0x61], .oversized .path]

def chores : List Operation := [
  .installRule Rule.watchTree .exit .always, .installRule Rule.watchTree .exit .always,
  .receiveEvent .nonBlocking 1, .setEnabled true, .registerListener 7,
  .deleteRule Rule.watchTree .exit .never, .installRule Rule.watchTree .user .never,
  .deleteRule Rule.watchTree .exit .always, .status]

theorem transcript_refines_chores :
    (transcript ask (overKernel crowd true {}) chores).1 = [
      some (.ok none), some (.error .duplicateRule), none, some (.ok none), some (.ok none),
      some (.error .ruleNotFound), some (.ok none), some (.ok none),
      some (.ok (some { enabled := 1, pid := 7 }))] ∧
    (transcript ask (overKernel crowd true {}) chores).2.transport.rules.map Rule.decode =
      [.ok (Rule.watchTree.withTarget .user .never)] := by
  have hcrowd : ∀ p ∈ crowd, p.Framed :=
    List.forall_mem_cons.2 ⟨⟨by decide, by decide⟩, List.forall_mem_singleton.2 trivial⟩
  have hrule : Rule.watchTree.WithinLimits := ⟨by decide, by decide, by decide⟩
  have hchores : ∀ op ∈ chores, op.WithinLimits := by
    simp only [chores, List.forall_mem_cons, Operation.WithinLimits, hrule, true_and]
    exact List.forall_mem_nil _
  have htimeout : ({} : Options).replyTimeout ≠ 0 := by decide
  obtain ⟨hanswers, hrules, -⟩ := transcript_refines hcrowd true htimeout hchores
  refine ⟨hanswers.trans ?_, hrules.trans ?_⟩
  · decide +kernel
  · decide +kernel

end Channel

end LinuxAudit
