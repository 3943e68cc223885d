import LinuxAudit.Text.CharClass
import LinuxAudit.Text.Utf8

/-!
Quoted text for messages: line breaks, tabs, zeros, backslashes and quotes are escaped by a
backslash, and characters that cannot be told by their look are written by code point.
-/

namespace LinuxAudit.Quoted

/-- Which quotes are escaped. -/
structure Style where
  single : Bool
  double : Bool

def escape (style : Style) (c : Char) : List Char :=
  match c with
  | '\x00' => ['\\', '0']
  | '\t' => ['\\', 't']
  | '\r' => ['\\', 'r']
  | '\n' => ['\\', 'n']
  | '\\' => ['\\', '\\']
  | '\'' => if style.single then ['\\', '\''] else ['\'']
  | '"' => if style.double then ['\\', '"'] else ['"']
  | _ =>
    if Text.isUnseen c then ['\\', 'u', '\x7b'] ++ Nat.toDigits 16 c.toNat ++ ['\x7d']
    else [c]

/-- A text between double quotes. -/
def text (s : String) : String :=
  "\"" ++ String.ofList (s.toList.flatMap (escape ⟨false, true⟩)) ++ "\""

/-- A character between single quotes. -/
def char (c : Char) : String :=
  "'" ++ String.ofList (escape ⟨true, false⟩ c) ++ "'"

/-- A byte by its two hexadecimal digits. -/
def byte (b : UInt8) : List Char :=
  let digit (n : Nat) : Char := (n.digitChar).toUpper
  ['\\', 'x', digit (b.toNat / 16), digit (b.toNat % 16)]

/-- A path between double quotes, with bytes that are no text by number. -/
def path (p : Bytes) : String :=
  let written : Utf8.Piece → List Char
    | .char c => escape ⟨false, true⟩ c
    | .broken bytes => bytes.flatMap byte
  "\"" ++ String.ofList ((Utf8.pieces p).flatMap written) ++ "\""

end LinuxAudit.Quoted
