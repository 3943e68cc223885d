import LinuxAudit.Text.CharWidth

/-!
Letters that are written as one sign with the letters in front of them. Ligatures are read from
their end, like all that decides the width of a text. Vowel signs that have a common spelling are
apart from the other ligatures, as nothing may stand between them.
-/

namespace LinuxAudit.Text

/-- The end of a ligature, up to where it has been read. -/
inductive LigatureEnd
  /-- An Arabic alef, which joins a lam. -/
  | alef
  /-- A Hebrew lamed, which a joiner ties to an alef. -/
  | lamed
  /-- A Buginese ya, which a joiner ties to the vowel sign i of an a. -/
  | ya
  | vowelYa
  /-- A Tifinagh letter, which a joiner or the consonant joiner ties to another. -/
  | tifinagh
  | joinedTifinagh
  /-- A Lisu tone letter that ends a pair. -/
  | tone
  /-- An Old Turkic i, which a joiner ties to an ec. -/
  | turkicI
  /-- A Khmer letter, which the coeng sign puts below the letter in front. -/
  | subjoined
deriving DecidableEq

/-- The Arabic letters of the joining group Alef. -/
def alefRanges : List (Nat × Nat) := [
  (0x0622, 0x0623), (0x0625, 0x0625), (0x0627, 0x0627), (0x0671, 0x0673), (0x0675, 0x0675),
  (0x0773, 0x0774), (0x0870, 0x0882)]

/-- The Arabic letters of the joining group Lam. -/
def lamRanges : List (Nat × Nat) := [
  (0x0644, 0x0644), (0x06B5, 0x06B8), (0x076A, 0x076A), (0x08A6, 0x08A6), (0x08C7, 0x08C7)]

def subjoinedRanges : List (Nat × Nat) := [
  (0x1780, 0x1782), (0x1784, 0x1787), (0x1789, 0x178C), (0x178E, 0x1793), (0x1795, 0x1798),
  (0x179B, 0x179D), (0x17A0, 0x17A0), (0x17A2, 0x17A2), (0x17A7, 0x17A7), (0x17AB, 0x17AC),
  (0x17AF, 0x17AF)]

def tifinaghRanges : List (Nat × Nat) := [(0x2D31, 0x2D65), (0x2D6F, 0x2D6F)]

/-- Marks that are default ignorable. -/
def ignorableMarkRanges : List (Nat × Nat) := [
  (0x034F, 0x034F), (0x17B4, 0x17B5), (0x180B, 0x180D), (0x180F, 0x180F), (0xFE00, 0xFE0F),
  (0xE0100, 0xE01EF)]

/-- Characters without width that Arabic letters do not join across. In ascending order. -/
def opaqueRanges : List (Nat × Nat) := [
  (0x0605, 0x0605), (0x0890, 0x0891), (0x08E2, 0x08E2), (0x09BE, 0x09BE), (0x09D7, 0x09D7),
  (0x0B3E, 0x0B3E), (0x0B57, 0x0B57), (0x0BBE, 0x0BBE), (0x0BD7, 0x0BD7), (0x0CC0, 0x0CC0),
  (0x0CC2, 0x0CC2), (0x0CC7, 0x0CC8), (0x0CCA, 0x0CCB), (0x0CD5, 0x0CD6), (0x0D3E, 0x0D3E),
  (0x0D4E, 0x0D4E), (0x0D57, 0x0D57), (0x0DCF, 0x0DCF), (0x0DDF, 0x0DDF), (0x1160, 0x11FF),
  (0x1715, 0x1715), (0x1734, 0x1734), (0x180E, 0x180E), (0x1B35, 0x1B35), (0x1B3B, 0x1B3B),
  (0x1B3D, 0x1B3D), (0x1B43, 0x1B44), (0x1BAA, 0x1BAA), (0x1BF2, 0x1BF3), (0x200C, 0x200D),
  (0x2065, 0x2069), (0x302E, 0x302F), (0x3164, 0x3164), (0xA8FA, 0xA8FA), (0xA953, 0xA953),
  (0xA9C0, 0xA9C0), (0xD7B0, 0xD7C6), (0xD7CB, 0xD7FB), (0xFFA0, 0xFFA0), (0xFFF0, 0xFFF8),
  (0x111C0, 0x111C0), (0x111C2, 0x111C3), (0x11235, 0x11235), (0x1133E, 0x1133E),
  (0x1134D, 0x1134D), (0x11357, 0x11357), (0x113B8, 0x113B8), (0x113C2, 0x113C2),
  (0x113C5, 0x113C5), (0x113C7, 0x113C9), (0x113CF, 0x113CF), (0x113D1, 0x113D1),
  (0x114B0, 0x114B0), (0x114BD, 0x114BD), (0x115AF, 0x115AF), (0x116B6, 0x116B6),
  (0x11930, 0x11930), (0x1193D, 0x1193D), (0x1193F, 0x1193F), (0x11941, 0x11941),
  (0x11A84, 0x11A89), (0x11D46, 0x11D46), (0x11F02, 0x11F02), (0x11F41, 0x11F41),
  (0x16FF0, 0x16FF1), (0x1D165, 0x1D166), (0x1D16D, 0x1D172), (0xE0000, 0xE0000),
  (0xE0002, 0xE001F), (0xE0080, 0xE00FF), (0xE01F0, 0xE0FFF)]

namespace LigatureEnd

def ofChar? (c : Char) : Option LigatureEnd :=
  if inRanges alefRanges c then some .alef
  else if inRanges subjoinedRanges c then some .subjoined
  else if inRanges tifinaghRanges c then some .tifinagh
  else
    match c.toNat with
    | 0x05DC => some .lamed
    | 0x1A10 => some .ya
    | 0xA4FC | 0xA4FD => some .tone
    | 0x10C03 => some .turkicI
    | _ => none

/-- Whether a character can stand inside the ligature without breaking it. -/
def skips (tail : LigatureEnd) (c : Char) : Bool :=
  match tail with
  | .alef => charWidth c == 0 && !inRanges opaqueRanges c
  | _ => inRanges ignorableMarkRanges c

/-- The columns that a character adds in front of the end of a ligature that it belongs to, and what
then still waits for a character in front. `joiner` tells whether a zero width joiner stands
between. -/
def prepend? (c : Char) (joiner : Bool) (tail : LigatureEnd) : Option (Int × Option LigatureEnd) :=
  match tail, c.toNat with
  | .alef, _ => if inRanges lamRanges c then some (0, none) else none
  | .lamed, 0x05D0 => if joiner then some (0, none) else none
  | .ya, 0x1A17 => if joiner then some (0, some .vowelYa) else none
  | .vowelYa, 0x1A15 => some (0, none)
  | .tifinagh, 0x2D7F => some (1, some .joinedTifinagh)
  | .tifinagh, _ => if joiner && inRanges tifinaghRanges c then some (0, none) else none
  | .joinedTifinagh, _ => if inRanges tifinaghRanges c then some (-1, none) else none
  | .tone, n => if 0xA4F8 ≤ n && n ≤ 0xA4FB then some (0, none) else none
  | .turkicI, 0x10C32 => if joiner then some (0, none) else none
  | .subjoined, 0x17D2 => some (-1, none)
  | _, _ => none

end LigatureEnd

/-- The end of a run of Kirat Rai vowel signs: a sign e, or the sign ai, which is two of them.
Behind a sign aa, e makes the sign o and ai makes the sign au. -/
inductive VowelEnd
  | e
  | ai

namespace VowelEnd

def ofChar? (c : Char) : Option VowelEnd :=
  match c.toNat with
  | 0x16D67 => some .e
  | 0x16D68 => some .ai
  | _ => none

/-- The columns that a vowel sign adds in front of others that it is spelled together with, and the
sign that then still waits for one in front. -/
def prepend? (c : Char) (tail : VowelEnd) : Option (Int × Option VowelEnd) :=
  match tail, c.toNat with
  | .e, 0x16D63 | .e, 0x16D69 | .ai, 0x16D63 => some (0, none)
  | .e, 0x16D67 => some (0, some .ai)
  | .e, 0x16D68 => some (1, some .e)
  | _, _ => none

end VowelEnd

end LinuxAudit.Text
