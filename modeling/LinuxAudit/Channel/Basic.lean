import LinuxAudit.Channel.Error
import LinuxAudit.Channel.Transport
import LinuxAudit.Event.Basic
import LinuxAudit.Rule.Clause
import LinuxAudit.Rule.Wire
import LinuxAudit.Status

/-!
The audit channel: requests with their replies, and the stream of events, over one transport. A
request waits for its own acknowledgement; what else arrives meanwhile is kept for the event stream,
except replies to earlier requests, which are dropped, and datagrams that cannot be read. A datagram
that cannot be read also drops the event under way, which it may have been a part of.
-/

namespace LinuxAudit

/-- Times are in milliseconds. -/
structure Channel.Options where
  pollInterval : Nat := 250
  replyTimeout : Nat := 1000
  /-- Every record is an event of its own. -/
  rawDelivery : Bool := false

structure Channel (σ : Type) where
  transport : σ
  options : Channel.Options := {}
  stopped : Bool := false
  /-- The number of the last request. -/
  sequence : UInt32 := 0
  /-- Messages received and not yet delivered. -/
  pending : List Message := []
  accumulator : Accumulator := {}
  log : List Log.Entry := []

inductive ReceiveMode
  | blocking
  | nonBlocking
deriving DecidableEq

namespace Channel

variable {σ : Type} [Transport σ]

/-- An operation on a channel; what it did before it failed stays. -/
abbrev Task (σ α : Type) := EStateM ChannelError (Channel σ) α

def note (level : Log.Level) (text : String) : Task σ Unit :=
  modify fun c => { c with log := c.log ++ [⟨level, text⟩] }

/-- Drops the event under way. -/
def dropEvent (c : Channel σ) : Channel σ :=
  let (accumulator, entries) := c.accumulator.reset
  { c with accumulator, log := c.log ++ entries }

/-- What a receive brings. -/
inductive Received
  | nothing
  | malformed (fault : Malformation)
  | messages (messages : List Message)

def receive (wait : Wait) : Task σ Received := do
  let c ← get
  let (reception, transport) := Transport.receive c.transport wait
  set { c with transport, stopped := c.stopped || reception.stop }
  match reception.arrival with
  | .nothing => return .nothing
  | .failure errno => throw (.transport errno)
  | .datagram data =>
    match Datagram.decode data with
    | .ok messages => return .messages messages
    | .error fault =>
      modify dropEvent
      return .malformed fault

/-- Requests are numbered from one on; after the last number comes one again. -/
def nextSequence (sequence : UInt32) : UInt32 :=
  if sequence + 1 = 0 then 1 else sequence + 1

/-- The messages of a datagram as a waiting request sorts them. -/
structure Sifted where
  /-- Messages for the event stream. -/
  kept : List Message := []
  /-- Replies to earlier requests. -/
  stale : List Message := []
  /-- The last reply so far. -/
  reply : Option Message
  /-- The number of the error reply that completes the request. -/
  code : Option Int := none

/-- Sorts messages up to the one that completes the request; all behind it are kept. -/
def sift (sequence : UInt32) (reply : Option Message) : List Message → Sifted
  | [] => { reply }
  | m :: rest =>
    if m.header.sequence = sequence then
      match m.errorCode? with
      | some code => { kept := rest, reply, code }
      | none => sift sequence (some m) rest
    else
      let sifted := sift sequence reply rest
      if m.header.type = .error then { sifted with stale := m :: sifted.stale }
      else { sifted with kept := m :: sifted.kept }

def staleEntry (m : Message) : Log.Entry :=
  ⟨.debug, s!"dropping stale reply to request {m.header.sequence.toNat}"⟩

/-- Receives until the request is completed, in so many receives at most. -/
def awaitReply (type : MessageType) (sequence : UInt32) :
    Nat → Option Message → Task σ (Option Message)
  | 0, _ => throw (.noReply type sequence)
  | polls + 1, reply => do
    match ← receive .reply with
    | .nothing => awaitReply type sequence polls reply
    | .malformed fault =>
      note .warn ((ChannelError.malformed fault).message
        ++ s!" while waiting for {type.label} ack {sequence.toNat}")
      awaitReply type sequence polls reply
    | .messages messages =>
      let sifted := sift sequence reply messages
      modify fun c => { c with
        pending := c.pending ++ sifted.kept
        log := c.log ++ sifted.stale.map staleEntry }
      match sifted.code with
      | none => awaitReply type sequence polls sifted.reply
      | some 0 => return sifted.reply
      | some code => throw (.ofErrorCode code)

/-- Sends a request and waits for its acknowledgement. Gives back the reply that came with it. -/
def request (type : MessageType) (payload : Bytes) : Task σ (Option Message) := do
  let c ← get
  let sequence := nextSequence c.sequence
  let data := Datagram.encode type (requestFlag ||| ackFlag) sequence payload
  let (failure, transport) := Transport.send c.transport data
  set { c with sequence, transport }
  if let some errno := failure then
    throw (.transport errno)
  note .trace s!"sent {type.label} request {sequence.toNat}"
  let timeout := c.options.replyTimeout
  let polls := if timeout = 0 then 0 else Transport.receivesWithin transport timeout
  awaitReply type sequence polls none

def installRule (rule : Rule) (list : FilterList) (action : Action) : Task σ Unit := do
  let rule := rule.withTarget list action
  let _ ← request .addRule rule.encode
  note .info ("installed rule " ++ rule.numericLine)

def deleteRule (rule : Rule) (list : FilterList) (action : Action) : Task σ Unit := do
  let rule := rule.withTarget list action
  let _ ← request .deleteRule rule.encode
  note .info ("deleted rule " ++ rule.numericLine)

/-- Turns auditing on or off. -/
def setEnabled (enabled : Bool) : Task σ Unit := do
  let _ ← request .setStatus (Status.enabling enabled).encode
  note .debug s!"auditing enabled: {enabled}"

/-- Makes a process the one that receives records. -/
def registerListener (pid : UInt32) : Task σ Unit := do
  let _ ← request .setStatus (Status.listening pid).encode
  note .debug s!"registered pid {pid.toNat} as audit listener"

def status : Task σ Status := do
  match ← request .getStatus [] with
  | none => throw (.noReply .getStatus (← get).sequence)
  | some reply =>
    match Status.decode reply.payload with
    | .ok status => return status
    | .error fault => throw (.malformed fault)

/-- The next message: one that is pending, else one of the next datagram. A blocking call receives
until there is one or the stop signal is raised; either call gives up after so many receives. -/
def nextMessage (mode : ReceiveMode) (polls : Nat) : Task σ (Option Message) := do
  let c ← get
  match c.pending with
  | message :: pending =>
    set { c with pending }
    return some message
  | [] =>
    if mode = .blocking ∧ c.stopped then
      throw .interrupted
    match polls with
    | 0 => throw .exhausted
    | polls + 1 =>
      match ← receive (if mode = .blocking then .poll else .none) with
      | .messages messages =>
        modify fun c => { c with pending := c.pending ++ messages }
        nextMessage mode polls
      | .malformed fault => throw (.malformed fault)
      | .nothing => if mode = .blocking then nextMessage mode polls else return none

/-- Hands a message to the event under way. -/
def dispatch (message : Message) : Task σ (Option Event) := do
  let c ← get
  let (event, accumulator) := c.accumulator.dispatch c.options.rawDelivery message
  set { c with accumulator }
  return event

/-- Takes the next message, and gives the event that it completes. -/
def receiveEvent (polls : Nat) (mode : ReceiveMode) : Task σ (Option Event) := do
  match ← nextMessage mode polls with
  | some message => dispatch message
  | none => return none

/-- How listening ended, and the events delivered before. -/
structure Listening (σ : Type) where
  events : List Event
  result : Except ChannelError Unit
  channel : Channel σ

/-- Delivers events until the stop signal is raised. Datagrams that cannot be read are skipped; any
other error ends listening. Gives up after so many rounds. -/
def listen (c : Channel σ) : Nat → Listening σ
  | 0 => ⟨[], .error .exhausted, c⟩
  | rounds + 1 =>
    match (receiveEvent rounds .blocking).run c with
    | .ok event c =>
      let rest := listen c rounds
      { rest with events := event.toList ++ rest.events }
    | .error .interrupted c => ⟨[], .ok (), c⟩
    | .error (.malformed fault) c =>
      let entry := ⟨.warn, (ChannelError.malformed fault).message⟩
      listen { c with log := c.log ++ [entry] } rounds
    | .error e c => ⟨[], .error e, c⟩

/-- Raises the stop signal. -/
def raiseStop (c : Channel σ) : Channel σ :=
  { c with stopped := true }

/-- What closing the channel leaves in its log: the event under way is dropped. -/
def close (c : Channel σ) : List Log.Entry :=
  c.dropEvent.log ++ [⟨.debug, "closing audit channel"⟩]

end Channel

end LinuxAudit
