import LinuxAudit.Log
import LinuxAudit.Netlink.Message

/-!
Audit events. The kernel sends an event as several records; the ones that describe its objects and
its process title are held back until the end marker of the event arrives.
-/

namespace LinuxAudit

/-- A complete event: the record that closed it, or that is the whole event, and the records that
were held back for it. -/
structure Event where
  primary : Message
  continuations : List Message := []
deriving DecidableEq

namespace Event

def type (event : Event) : MessageType :=
  event.primary.header.type

/-- The identity of the first record that carries one. -/
def id? (event : Event) : Option EventId :=
  (event.continuations ++ [event.primary]).findSome? Message.id?

/-- The closing record on a line, then the records held back for it, one on each line. -/
def text (event : Event) : String :=
  let id := match event.id? with
    | some id => " audit(" ++ id.text ++ ")"
    | none => ""
  let body :=
    if event.primary.payload.isEmpty || event.type.isControl then ""
    else " " ++ event.primary.body
  event.type.label ++ id ++ body
    ++ String.join (event.continuations.map fun m => "\n  " ++ m.header.type.label ++ " " ++ m.body)

/-- The event as it is printed. -/
def report (event : Event) : String :=
  event.text ++ "\n"

end Event

/-- The records held back for the event under way. -/
structure Accumulator where
  records : List Message := []
deriving DecidableEq

namespace Accumulator

def push (acc : Accumulator) (record : Message) : Accumulator :=
  ⟨acc.records ++ [record]⟩

/-- Closes the event under way. -/
def drain (acc : Accumulator) (closing : Message) : Event × Accumulator :=
  (⟨closing, acc.records⟩, {})

/-- Drops the event under way. -/
def reset (acc : Accumulator) : Accumulator × List Log.Entry :=
  let entries := if acc.records.isEmpty then []
    else [⟨.debug, s!"dropping {acc.records.length} partial records"⟩]
  ({}, entries)

/-- Takes one message: a continuation is held back, an end marker closes the event under way, and
any other message is an event of its own. With raw delivery every message is. -/
def dispatch (raw : Bool) (acc : Accumulator) (message : Message) : Option Event × Accumulator :=
  if raw then (some ⟨message, []⟩, acc)
  else if message.header.type.isContinuation then (none, acc.push message)
  else if message.header.type = .endOfEvent then
    let (event, acc) := acc.drain message
    (some event, acc)
  else (some ⟨message, []⟩, acc)

/-- Takes messages one after the other. -/
def dispatchAll (raw : Bool) (acc : Accumulator) : List Message → List Event × Accumulator
  | [] => ([], acc)
  | message :: rest =>
    let (event?, acc) := dispatch raw acc message
    let (events, acc) := dispatchAll raw acc rest
    (event?.toList ++ events, acc)

end Accumulator

end LinuxAudit
