import LinuxAudit.Bytes

/-!
UTF-8 text as bytes. A byte string falls into well-formed characters and broken stretches; a broken
stretch is the longest run of bytes that begins a character and cannot go on as one, or a single
byte that begins none.
-/

namespace LinuxAudit.Utf8

/-- The bytes of a character: one to four, the value bits spread over them from the top. -/
def encodeChar (c : Char) : Bytes :=
  let n := c.toNat
  if n < 0x80 then [UInt8.ofNat n]
  else if n < 0x800 then [UInt8.ofNat (0xC0 + n / 0x40), UInt8.ofNat (0x80 + n % 0x40)]
  else if n < 0x10000 then
    [UInt8.ofNat (0xE0 + n / 0x1000), UInt8.ofNat (0x80 + n / 0x40 % 0x40),
      UInt8.ofNat (0x80 + n % 0x40)]
  else
    [UInt8.ofNat (0xF0 + n / 0x40000), UInt8.ofNat (0x80 + n / 0x1000 % 0x40),
      UInt8.ofNat (0x80 + n / 0x40 % 0x40), UInt8.ofNat (0x80 + n % 0x40)]

/-- The bytes of a text. -/
def encode (text : String) : Bytes :=
  text.toList.flatMap encodeChar

inductive Piece
  | char (c : Char)
  | broken (bytes : Bytes)
deriving DecidableEq

/-- A character under way: its value bits and bytes so far, the bounds of the byte that comes next,
and how many bytes follow that one. -/
structure Pending where
  value : Nat
  seen : Bytes
  low : Nat
  high : Nat
  more : Nat
deriving DecidableEq

/-- The character that a lead byte announces. The bounds of the second byte shut out overlong forms,
surrogates and values past the last code point. -/
def lead? (b : UInt8) : Option Pending :=
  let n := b.toNat
  if n < 0xC2 then none
  else if n < 0xE0 then some ⟨n - 0xC0, [b], 0x80, 0xBF, 0⟩
  else if n = 0xE0 then some ⟨0, [b], 0xA0, 0xBF, 1⟩
  else if n = 0xED then some ⟨0xD, [b], 0x80, 0x9F, 1⟩
  else if n < 0xF0 then some ⟨n - 0xE0, [b], 0x80, 0xBF, 1⟩
  else if n = 0xF0 then some ⟨0, [b], 0x90, 0xBF, 2⟩
  else if n < 0xF4 then some ⟨n - 0xF0, [b], 0x80, 0xBF, 2⟩
  else if n = 0xF4 then some ⟨4, [b], 0x80, 0x8F, 2⟩
  else none

/-- Reads a byte where a character begins. -/
def begin (b : UInt8) : List Piece × Option Pending :=
  if b.toNat < 0x80 then ([.char (Char.ofNat b.toNat)], none)
  else match lead? b with
    | some p => ([], some p)
    | none => ([.broken [b]], none)

/-- Reads a byte: the pieces that it completes, and the character that it leaves under way. A byte
that cannot go on with the character under way breaks it off and begins anew. -/
def step : Option Pending → UInt8 → List Piece × Option Pending
  | none, b => begin b
  | some p, b =>
    if p.low ≤ b.toNat ∧ b.toNat ≤ p.high then
      let value := p.value * 0x40 + (b.toNat - 0x80)
      match p.more with
      | 0 => ([.char (Char.ofNat value)], none)
      | more + 1 => ([], some ⟨value, p.seen ++ [b], 0x80, 0xBF, more⟩)
    else (.broken p.seen :: (begin b).1, (begin b).2)

def piecesFrom : Option Pending → Bytes → List Piece
  | none, [] => []
  | some p, [] => [.broken p.seen]
  | s, b :: rest => (step s b).1 ++ piecesFrom (step s b).2 rest

/-- The characters and broken stretches of a byte string, in order. -/
def pieces (data : Bytes) : List Piece :=
  piecesFrom none data

namespace Piece

/-- The character itself; the replacement character for a broken stretch. -/
def shown : Piece → Char
  | char c => c
  | broken _ => '\uFFFD'

def bytes : Piece → Bytes
  | char c => encodeChar c
  | broken bytes => bytes

def char? : Piece → Option Char
  | char c => some c
  | broken _ => none

end Piece

/-- The text of a byte string, with a replacement character for each broken stretch. -/
def lossy (data : Bytes) : String :=
  String.ofList ((pieces data).map Piece.shown)

/-- The text of a byte string that has no broken stretch. -/
def decode? (data : Bytes) : Option String :=
  ((pieces data).mapM Piece.char?).map String.ofList

/-- The length of a text in bytes. -/
def size (text : String) : Nat :=
  (encode text).length

end LinuxAudit.Utf8
