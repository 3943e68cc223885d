import LinuxAudit.Text.CharClass
import LinuxAudit.Text.Numeral
import LinuxAudit.Text.Quoted

/-!
Configuration text: sections in brackets, and keys with values behind `=` or `:`. Comments take a
whole line. A backslash escapes the character behind it, everywhere but in comments, and a value may
begin with a quoted part.
-/

namespace LinuxAudit.Ini

/-- Where a stretch of text ends: at one of some characters, or also at the end of the text. -/
structure Ends where
  chars : List Char
  atEnd : Bool := false
deriving DecidableEq

inductive Problem
  | inlineComment
  | missingKey
  | unknownCharacter
  | expectedBreak (found : Option Char)
  | unexpectedEnd (ends : Ends)
deriving DecidableEq

/-- A problem, and the text that is left from the current character on. -/
structure Fault where
  problem : Problem
  rest : List Char
deriving DecidableEq

/-- A character that may be missing, as messages show it. -/
def shown : Option Char → String
  | some c => "Some(" ++ Quoted.char c ++ ")"
  | none => "None"

def Problem.message : Problem → String
  | inlineComment => "doesn't support inline comment"
  | missingKey => "missing key"
  | unknownCharacter => "unknown character in \\xHH form"
  | expectedBreak found => "expecting \"\\\\n\" but found \"" ++ shown found ++ "\"."
  | unexpectedEnd ends =>
    let marks := ends.chars.map some ++ if ends.atEnd then [none] else []
    "expecting \"[" ++ ", ".intercalate (marks.map shown) ++ "]\" but found EOF."

/-- Line and column of the current character, each counted from one; the column counts the current
character as read. -/
def position (text rest : List Char) : Nat × Nat :=
  let read := text.take (text.length - rest.length + if rest.isEmpty then 0 else 1)
  (read.count '\n' + 1, (read.reverse.takeWhile (· != '\n')).length + 1)

def Fault.message (text : List Char) (fault : Fault) : String :=
  let (line, column) := position text fault.rest
  s!"{line}:{column} {fault.problem.message}"

/-- How far the reading of an escape has come. -/
inductive Escape
  | none
  /-- Behind a backslash. -/
  | begun
  /-- In the four characters of a code point. -/
  | code (seen : List Char)
  /-- Behind a backslash among those, which must be followed by a line break. -/
  | codeBreak (seen : List Char)

/-- The character that a letter behind a backslash stands for. -/
def unescaped : Char → Char
  | '0' => '\x00'
  | 'a' => '\x07'
  | 'b' => '\x08'
  | 't' => '\t'
  | 'r' => '\r'
  | 'n' => '\n'
  | c => c

/-- The character of a code point in four hexadecimal digits. -/
def codePoint? (digits : List Char) : Option Char :=
  match Numeral.natural 16 UInt32.size digits with
  | .ok n => if n.isValidChar then some (Char.ofNat n) else none
  | .error _ => none

/-- Reads up to an end, which is left. -/
def upTo (ends : Ends) : Escape → List Char → Except Fault (List Char × List Char)
  | .none, [] => if ends.atEnd then .ok ([], []) else .error ⟨.unexpectedEnd ends, []⟩
  | .codeBreak _, [] => .error ⟨.expectedBreak none, []⟩
  | .begun, [] | .code _, [] => .error ⟨.unexpectedEnd ends, []⟩
  | .none, c :: rest =>
    if c ∈ ends.chars then .ok ([], c :: rest)
    else if c = '\\' then upTo ends .begun rest
    else add c (upTo ends .none rest)
  | .begun, c :: rest =>
    if c = 'x' then upTo ends (.code []) rest
    else if c = '\n' then upTo ends .none rest
    else add (unescaped c) (upTo ends .none rest)
  | .code seen, c :: rest =>
    if c = '\\' then upTo ends (.codeBreak seen) rest
    else if seen.length < 3 then upTo ends (.code (seen ++ [c])) rest
    else match codePoint? (seen ++ [c]) with
      | some d => add d (upTo ends .none rest)
      | none => .error ⟨.unknownCharacter, c :: rest⟩
  | .codeBreak seen, c :: rest =>
    if c ≠ '\n' then .error ⟨.expectedBreak (some c), c :: rest⟩
    else if seen.length < 3 then upTo ends (.code (seen ++ [c])) rest
    else .error ⟨.unknownCharacter, c :: rest⟩
where
  add (c : Char) (r : Except Fault (List Char × List Char)) :
      Except Fault (List Char × List Char) :=
    r.map fun (value, rest) => (c :: value, rest)

theorem add_eq_ok {c : Char} {r : Except Fault (List Char × List Char)} {value rest : List Char}
    (h : upTo.add c r = .ok (value, rest)) : ∃ shorter, r = .ok (shorter, rest) := by
  match r, h with
  | .ok (shorter, _), h =>
    simp only [upTo.add, Except.map, Except.ok.injEq, Prod.mk.injEq] at h
    exact ⟨shorter, by rw [h.2]⟩

/-- Reading up to an end only takes from the text. -/
theorem upTo_length_le {ends : Ends} {s value rest : List Char} {escape : Escape}
    (h : upTo ends escape s = .ok (value, rest)) : rest.length ≤ s.length := by
  induction s generalizing escape value rest with
  | nil =>
    cases escape <;> simp only [upTo, reduceCtorEq] at h
    split at h
    · cases h; exact Nat.le_refl _
    · cases h
  | cons c s ih =>
    cases escape <;> simp only [upTo] at h <;> (repeat' split at h)
    case none.isTrue => cases h; exact Nat.le_refl _
    all_goals first
      | cases h
      | exact Nat.le_succ_of_le (ih h)
      | obtain ⟨shorter, h⟩ := add_eq_ok h
        exact Nat.le_succ_of_le (ih h)

def lineEnd : Ends := ⟨['\n', '\r'], true⟩

/-- Reads a value, behind its sign. -/
def value (s : List Char) : Except Fault (List Char × List Char) :=
  match s.dropWhile fun c => Text.isBlank c && c != '\n' && c != '\r' with
  | [] => .ok ([], [])
  | c :: rest =>
    if c = '"' ∨ c = '\'' then do
      let (quoted, rest) ← upTo ⟨[c], false⟩ .none rest
      let (plain, rest) ← upTo lineEnd .none (rest.drop 1)
      return (quoted ++ plain, rest)
    else upTo lineEnd .none (c :: rest)

/-- What a text holds, in order. -/
inductive Item
  | heading (name : String)
  | pair (key value : String)
deriving DecidableEq

/-- A text without the blanks around it. -/
def trim (s : List Char) : String :=
  String.ofList (Text.trimmed s)

/-- Reads one thing at a character that is no blank: a comment, a section name, a value or a key.
Gives the item that it completes, the key that is left waiting for its value, and the rest. -/
def next (text : List Char) (key : String) (c : Char) (rest : List Char) :
    Except Fault (Option Item × String × List Char) :=
  if c = ';' ∨ c = '#' then
    if (position text (c :: rest)).2 > 2 then .error ⟨.inlineComment, c :: rest⟩
    else .ok (none, key, (rest.dropWhile (· != '\n')).drop 1)
  else if c = '[' then do
    let (name, rest) ← upTo ⟨[']'], false⟩ .none rest
    return (some (.heading (trim name)), key, rest.drop 1)
  else if c = '=' ∨ c = ':' then
    if key.isEmpty then .error ⟨.missingKey, c :: rest⟩
    else do
      let (value, rest) ← value rest
      return (some (.pair key (trim value)), "", rest)
  else do
    let (key, rest) ← upTo ⟨['=', ':'], false⟩ .none (c :: rest)
    return (none, trim key, rest)

theorem value_length_le {s value' rest : List Char} (h : value s = .ok (value', rest)) :
    rest.length ≤ s.length := by
  have hdrop := (List.dropWhile_sublist (fun c => Text.isBlank c && c != '\n' && c != '\r')
    (l := s)).length_le
  unfold value at h
  split at h
  · cases h; exact Nat.zero_le _
  · rename_i c behind heq
    rw [heq, List.length_cons] at hdrop
    split at h
    · simp only [bind, Except.bind] at h
      split at h
      · cases h
      rename_i quoted hquoted
      split at h
      · cases h
      rename_i plain hplain
      cases h
      have hfirst := upTo_length_le hquoted
      have hsecond := upTo_length_le hplain
      rw [List.length_drop] at hsecond
      omega
    · have := upTo_length_le h
      rw [List.length_cons] at this
      omega

theorem next_length_le {text rest rest' : List Char} {key key' : String} {c : Char}
    {item : Option Item} (h : next text key c rest = .ok (item, key', rest')) :
    rest'.length ≤ rest.length := by
  unfold next at h
  split at h
  · split at h
    · cases h
    · cases h
      rw [List.length_drop]
      have := (List.dropWhile_sublist (· != '\n') (l := rest)).length_le
      omega
  split at h
  · simp only [bind, Except.bind] at h
    split at h
    · cases h
    rename_i name hname
    cases h
    have := upTo_length_le hname
    rw [List.length_drop]
    omega
  split at h
  · split at h
    · cases h
    simp only [bind, Except.bind] at h
    split at h
    · cases h
    rename_i read hread
    cases h
    exact value_length_le hread
  · rename_i hsign
    simp only [bind, Except.bind] at h
    split at h
    · cases h
    rename_i read hread
    cases h
    have hc : c ∉ ['=', ':'] := by simpa using hsign
    simp only [upTo, if_neg hc] at hread
    split at hread
    · exact upTo_length_le hread
    · obtain ⟨shorter, hread⟩ := add_eq_ok hread
      exact upTo_length_le hread

/-- Reads the items from some place of a text on, a key perhaps waiting for its value. -/
def itemsFrom (text : List Char) (key : String) (s : List Char) : Except Fault (List Item) :=
  match hs : s.dropWhile Text.isBlank with
  | [] => .ok []
  | c :: rest =>
    match hnext : next text key c rest with
    | .error fault => .error fault
    | .ok (item, key, rest') =>
      have : rest'.length < s.length := by
        have hle := next_length_le hnext
        have hdrop := (List.dropWhile_sublist Text.isBlank (l := s)).length_le
        rw [hs, List.length_cons] at hdrop
        omega
      (itemsFrom text key rest').map (item.toList ++ ·)
termination_by s.length

/-- A section as it stands in a text; keys may come again, and so may sections. -/
structure Section where
  name : String
  pairs : List (String × String) := []
deriving DecidableEq

/-- The sections of a list of items. Pairs in front of the first section belong to none. -/
def sections (items : List Item) : List Section :=
  (items.foldl add []).reverse
where
  add : List Section → Item → List Section
    | done, .heading name => ⟨name, []⟩ :: done
    | [], .pair _ _ => []
    | s :: done, .pair key value => { s with pairs := s.pairs ++ [(key, value)] } :: done

/-- Reads a text, or says where and why it cannot be read. -/
def parse (text : String) : Except String (List Section) :=
  match itemsFrom text.toList "" text.toList with
  | .ok items => .ok (sections items)
  | .error fault => .error (fault.message text.toList)

end LinuxAudit.Ini
