import LinuxAudit.Text.Emoji
import LinuxAudit.Text.Ligature

/-!
The width of text on a terminal, in columns. It is the sum of the widths of the characters, except
where several of them are shown as one: a line break of two characters, an emoji sequence, a
ligature, and a character whose width a variation selector changes. A text is read from its end, and
each character is counted in view of what follows it.
-/

namespace LinuxAudit.Text

/-- A sign that chooses how the character in front of it is shown. -/
inductive Selector
  | fullWidth
  | text
  | emoji
deriving DecidableEq

namespace Selector

def ofChar? (c : Char) : Option Selector :=
  match c.toNat with
  | 0xFE01 => some .fullWidth
  | 0xFE0E => some .text
  | 0xFE0F => some .emoji
  | _ => none

end Selector

/-- What follows a character, as far as it matters for the width. -/
inductive Follower
  | plain
  | lineFeed
  | vowel (tail : VowelEnd)
  | ligature (tail : LigatureEnd) (joiner : Bool)
  | emoji (tail : EmojiEnd)

/-- What follows a character, and the selectors between. -/
structure Context where
  selectors : List Selector
  follower : Follower

namespace Context

def plain : Context := ⟨[], .plain⟩

/-- A selector cuts off what follows it with the selectors between, unless it is a ligature, where
selectors gather without breaking it, or a joiner behind an emoji selector. -/
def select (context : Context) (selector : Selector) : Context :=
  match selector, context.follower with
  | _, .ligature tail joiner => ⟨selector :: context.selectors, .ligature tail joiner⟩
  | .emoji, .emoji tail =>
    if tail.awaitsStyled then ⟨[.emoji], .emoji tail⟩ else ⟨[.emoji], .plain⟩
  | _, _ => ⟨[selector], .plain⟩

/-- The context without selectors that the character in front of them does not take. -/
def drop (context : Context) (p : Selector → Bool) : Context :=
  if context.selectors.any p then
    match context.follower with
    | .ligature tail joiner => ⟨context.selectors.filter (!p ·), .ligature tail joiner⟩
    | _ => .plain
  else context

/-- A character in emoji style has two columns, or none if a joiner ties it to what follows. -/
def styledWidth (context : Context) : Int :=
  match context.follower with
  | .emoji tail => if tail.awaitsStyled then 0 else 2
  | _ => 2

end Context

/-- A quotation mark with a narrow and a wide form. -/
def isCurlyQuote (c : Char) : Bool :=
  c.toNat == 0x2018 || c.toNat == 0x2019 || c.toNat == 0x201C || c.toNat == 0x201D

/-- The width of a character that does not belong to what follows it, and what it is itself to the
character in front. -/
def aloneStep (c : Char) : Int × Context :=
  let follower : Follower :=
    match LigatureEnd.ofChar? c, VowelEnd.ofChar? c, EmojiEnd.ofChar? c with
    | some tail, _, _ => .ligature tail false
    | none, some tail, _ => .vowel tail
    | none, none, some tail => .emoji tail
    | none, none, none => .plain
  (charWidth c, ⟨[], follower⟩)

/-- A character in front of a follower with no selector between. -/
def followedStep (c : Char) (follower : Follower) : Int × Context :=
  match follower with
  | .vowel tail =>
    match tail.prepend? c with
    | some (columns, some longer) => (columns, ⟨[], .vowel longer⟩)
    | some (columns, none) => (columns, .plain)
    | none => aloneStep c
  | .ligature tail joiner =>
    if tail ≠ .alef ∧ c = zeroWidthJoiner then (0, ⟨[], .ligature tail true⟩)
    else if tail.skips c then (0, ⟨[], .ligature tail joiner⟩)
    else
      match tail.prepend? c joiner with
      | some (columns, some longer) => (columns, ⟨[], .ligature longer false⟩)
      | some (columns, none) => (columns, .plain)
      | none => aloneStep c
  | .emoji tail =>
    match tail.prepend? c with
    | some (columns, longer) => (columns, ⟨[], .emoji longer⟩)
    | none => aloneStep c
  | _ => aloneStep c

/-- A character up to the no-break space: one column each, and a line break of two characters has
one in all. -/
def basicStep (c : Char) (follower : Follower) : Int × Context :=
  match c, follower with
  | '\n', _ => (1, ⟨[], .lineFeed⟩)
  | '\r', .lineFeed => (0, .plain)
  | _, _ => (1, .plain)

/-- A character that is not in emoji style. -/
def unstyledStep (c : Char) (context : Context) : Int × Context :=
  if c.toNat ≤ 0xA0 then basicStep c context.follower
  else
    match Selector.ofChar? c with
    | some selector => (0, context.select selector)
    | none =>
      if context.selectors.contains .text && isNarrowAsText c then (1, .plain)
      else if context.selectors.contains .fullWidth && isCurlyQuote c then (2, .plain)
      else followedStep c (context.drop fun _ => true).follower

/-- The columns that a character adds to the text that follows it, and the context of the character
in front of it. -/
def widthStep (c : Char) (context : Context) : Int × Context :=
  if context.selectors.contains .emoji && hasStyles c then
    (context.styledWidth, ⟨[], .emoji .shown⟩)
  else unstyledStep c (context.drop (· = .emoji))

def width (text : String) : Nat :=
  (text.toList.foldr (fun c (total, context) =>
    let (columns, context) := widthStep c context
    (total + columns, context)) ((0 : Int), Context.plain)).1.toNat

end LinuxAudit.Text
