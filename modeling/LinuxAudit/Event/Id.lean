import LinuxAudit.Bytes
import LinuxAudit.Text.Cut
import LinuxAudit.Text.Numeral
import LinuxAudit.Text.Utf8

/-!
The identity that all records of one event share: a time and a serial number. A record begins with
it as `audit(<seconds>.<milliseconds>:<serial>)`.
-/

namespace LinuxAudit

structure EventId where
  seconds : UInt64
  millis : UInt32
  serial : UInt64
deriving DecidableEq

namespace EventId

/-- The text in front of an identity. -/
def opening : List Char := "audit(".toList

/-- Milliseconds are written with three digits at least. -/
def text (id : EventId) : String :=
  toString id.seconds.toNat ++ "." ++ Numeral.padded 3 id.millis.toNat ++ ":"
    ++ toString id.serial.toNat

/-- Reads what stands between the brackets. -/
def ofText? (s : List Char) : Option EventId := do
  let (time, serial) ← Text.cut? [':'] s
  let (seconds, millis) ← Text.cut? ['.'] time
  return {
    seconds := UInt64.ofNat (← (Numeral.natural 10 UInt64.size seconds).toOption)
    millis := UInt32.ofNat (← (Numeral.natural 10 UInt32.size millis).toOption)
    serial := UInt64.ofNat (← (Numeral.natural 10 UInt64.size serial).toOption) }

/-- Reads the identity at the beginning of a record. Bytes behind it may be anything. -/
def ofRecord? (payload : Bytes) : Option EventId := do
  let rest ← Text.after? (opening.flatMap Utf8.encodeChar) payload
  let (inner, _) ← Text.cut? [0x29] rest
  let text ← Utf8.decode? inner
  ofText? text.toList

/-- The time in nanoseconds since the epoch; it is not defined past the last second that a signed
64-bit count can hold. -/
def nanoseconds? (id : EventId) : Option Nat :=
  let total := id.seconds.toNat * 1000 + id.millis.toNat
  if total / 1000 < UInt64.size / 2 then some (total * 1000000) else none

end EventId

end LinuxAudit
