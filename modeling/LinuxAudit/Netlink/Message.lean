import LinuxAudit.Bytes
import LinuxAudit.Event.Id
import LinuxAudit.Netlink.MessageType

/-!
Netlink messages and what they say.
-/

namespace LinuxAudit

/-- The header of a message. The declared length is the sender's word; see the framing of
datagrams for what it counts. -/
structure Header where
  length : UInt32
  type : MessageType
  flags : UInt16 := 0
  sequence : UInt32 := 0
  /-- The address of the sender; the kernel's is zero. -/
  sender : UInt32 := 0
deriving DecidableEq

namespace Header

def encode (header : Header) : Bytes :=
  Bytes.ofWord header.length ++ Bytes.ofHalf header.type.code ++ Bytes.ofHalf header.flags
    ++ Bytes.ofWord header.sequence ++ Bytes.ofWord header.sender

/-- Reads a header and gives back what follows it. -/
def decode? : Bytes → Option (Header × Bytes)
  | l₀ :: l₁ :: l₂ :: l₃ :: t₀ :: t₁ :: f₀ :: f₁ :: s₀ :: s₁ :: s₂ :: s₃ :: p₀ :: p₁ :: p₂ :: p₃
      :: rest =>
    some ({
      length := Bytes.word l₀ l₁ l₂ l₃
      type := ⟨Bytes.half t₀ t₁⟩
      flags := Bytes.half f₀ f₁
      sequence := Bytes.word s₀ s₁ s₂ s₃
      sender := Bytes.word p₀ p₁ p₂ p₃ }, rest)
  | _ => none

end Header

structure Message where
  header : Header
  payload : Bytes
deriving DecidableEq

namespace Message

/-- The number that an error reply carries: zero for an acknowledgement, else the error number. The
kernel sends it negated, in the first word. The word of -2^31 is its own negation in arithmetic that
wraps, and gives 2^31 here; neither is a known error number, so it is the same error either way. -/
def errorCode? (message : Message) : Option Int :=
  if message.header.type = .error then
    match message.payload with
    | a :: b :: c :: d :: _ => some (-(Bytes.word a b c d).toInt32.toInt)
    | _ => none
  else none

/-- The record without the zeros at its end. -/
def text (message : Message) : String :=
  Utf8.lossy (message.payload.reverse.dropWhile (· == 0)).reverse

def id? (message : Message) : Option EventId :=
  EventId.ofRecord? message.payload

/-- The record behind its identity, or all of it if it has none. -/
def body (message : Message) : String :=
  let text := message.text
  match (Text.after? EventId.opening text.toList).bind (Text.cut? "): ".toList) with
  | some (_, body) => String.ofList body
  | none => text

def line (message : Message) : String :=
  "type=" ++ message.header.type.label ++ " msg=" ++ message.text

end Message

end LinuxAudit
