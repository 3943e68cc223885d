import LinuxAudit.Channel.Transport
import LinuxAudit.Rule.Wire
import LinuxAudit.Status

/-!
The audit side of a kernel, kept in memory: it answers requests for rules and status, and its
records wait in an inbox, each in a datagram of its own.
-/

namespace LinuxAudit

structure Kernel where
  /-- The installed rules on the wire, oldest first. -/
  rules : List Bytes := []
  status : Status := {}
  inbox : List Bytes := []
  /-- The requests received. -/
  sent : List Message := []
  /-- The error that refuses every request. -/
  denial : Option Errno := none
  /-- Requests are taken and never answered. -/
  muted : Bool := false
  /-- A receive that finds nothing raises the stop signal. -/
  stopsWhenDrained : Bool := false

namespace Kernel

def queue (k : Kernel) (data : Bytes) : Kernel :=
  { k with inbox := k.inbox ++ [data] }

def queueRecord (k : Kernel) (type : MessageType) (payload : Bytes) : Kernel :=
  k.queue (Datagram.ofRecord type payload)

/-- Queues a record that declares more than the longest message. -/
def queueOversized (k : Kernel) (type : MessageType) : Kernel :=
  k.queue ({ length := UInt32.ofNat (maxMessageLength + messageHeaderSize), type : Header }.encode
    ++ List.replicate 64 0x78)

/-- Answers a request with an error number, zero for success. The number is negated, and the header
of the request follows it. -/
def answer (k : Kernel) (request : Message) (errno : Nat) : Kernel :=
  k.queue (Datagram.encode .error 0 request.header.sequence
    (Bytes.ofWord (UInt32.ofNat (UInt32.size - errno)) ++ request.header.encode))

def addRule (k : Kernel) (rule : Bytes) : Except Errno Kernel :=
  match Rule.decode rule with
  | .error _ => .error .invalidArgument
  | .ok _ =>
    if k.rules.contains rule then .error .alreadyExists
    else .ok { k with rules := k.rules ++ [rule] }

def deleteRule (k : Kernel) (rule : Bytes) : Except Errno Kernel :=
  match Rule.decode rule with
  | .error _ => .error .invalidArgument
  | .ok _ =>
    if k.rules.contains rule then .ok { k with rules := k.rules.erase rule }
    else .error .noEntry

/-- Sets the values that a status change asks for. -/
def update (k : Kernel) (change : Status) : Kernel :=
  let chosen (bit old new : UInt32) : UInt32 := if change.mask &&& bit = 0 then old else new
  { k with status := { k.status with
      enabled := chosen Status.setsEnabled k.status.enabled change.enabled
      failure := chosen Status.setsFailure k.status.failure change.failure
      pid := chosen Status.setsPid k.status.pid change.pid } }

/-- The record that reports an installed rule. -/
def ruleAddedRecord : String :=
  "audit(1700000000.000:1): auid=0 ses=1 op=add_rule key=(null) list=4 res=1"

/-- Carries out a request, without the answer to it. -/
def perform (k : Kernel) (request : Message) : Except Errno Kernel :=
  if request.header.type = .addRule then k.addRule request.payload
  else if request.header.type = .deleteRule then k.deleteRule request.payload
  else if request.header.type = .setStatus then
    match Status.decode request.payload with
    | .ok change => .ok (k.update change)
    | .error _ => .error .invalidArgument
  else if request.header.type = .getStatus then
    .ok (k.queue (Datagram.encode .getStatus 0 request.header.sequence k.status.encode))
  else .error .invalidArgument

/-- Carries out a request and answers it; an installed rule is also reported by a record. -/
def handle (k : Kernel) (request : Message) : Kernel :=
  match k.denial with
  | some errno => k.answer request errno.code
  | none =>
    match k.perform request with
    | .error errno => k.answer request errno.code
    | .ok k =>
      let k := k.answer request 0
      if request.header.type = .addRule then
        k.queueRecord .configChange (Utf8.encode ruleAddedRecord)
      else k

def send (k : Kernel) (data : Bytes) : Option Errno × Kernel :=
  match Datagram.decode data with
  | .error _ => (some .invalidArgument, k)
  | .ok requests =>
    (none, requests.foldl (fun k request =>
      let k := if k.muted then k else k.handle request
      { k with sent := k.sent ++ [request] }) k)

def receive (k : Kernel) (_ : Wait) : Reception × Kernel :=
  match k.inbox with
  | data :: inbox => (⟨.ofDatagram data, false⟩, { k with inbox })
  | [] => (⟨.nothing, k.stopsWhenDrained⟩, k)

/-- Nothing more arrives once the inbox is empty, so a deadline passes with the receive after
that. -/
instance : Transport Kernel where
  send := send
  receive := receive
  receivesWithin k _ := k.inbox.length + 1

end Kernel

end LinuxAudit
