import Mathlib
import LinuxAudit.Proofs.Abi.Numbering
import LinuxAudit.Proofs.Rule.Expression
import LinuxAudit.Proofs.Rule.Sketch
import LinuxAudit.Proofs.Text.Utf8

/-! The clauses of a written rule, and what they are read as. An entry is read from its expression,
`Entry.addition?_expression`, and the numbers of a rule are those that the texts of its selections
stand for, `Rule.mem_numbers_clauses`. -/

namespace LinuxAudit

/-- A rule in written form, clause by clause. -/
structure Clauses where
  action : String
  list : String
  selections : List String
  expressions : List String

/-- A syscall clause is a number where it reads as one, else a name. -/
def Selection.ofText (text : String) : Selection :=
  match Numeral.unsigned UInt32.size text with
  | .ok nr => .number (UInt32.ofNat nr)
  | .error _ => .name text

namespace Clauses

def line (clauses : Clauses) : String :=
  "-a " ++ clauses.action ++ "," ++ clauses.list
    ++ String.join (clauses.selections.map (" -S " ++ ·))
    ++ String.join (clauses.expressions.map (" -F " ++ ·))

/-- The edits that clauses ask for: the target first, then the predicates, then the syscalls. -/
def steps? (clauses : Clauses) : Option (List Draft.Step) := do
  let list ← FilterList.ofName? clauses.list
  let action ← Action.ofName? clauses.action
  return [.setList list, .setAction action] ++ clauses.expressions.map .addExpression ++
    clauses.selections.map (.select ∘ .ofText)

end Clauses

def Rule.clauses (syscallName? : UInt32 → Option String) (rule : Rule) : Clauses where
  action := rule.action.name
  list := rule.list.name
  selections := (rule.selections syscallName?).map Selection.text
  expressions := rule.expressions

theorem Rule.line_clauses (syscallName? : UInt32 → Option String) (rule : Rule) :
    (rule.clauses syscallName?).line = rule.line syscallName? := by
  rw [Clauses.line, clauses, List.map_map]
  rfl

/-- The names of target and action are read back. -/
theorem Rule.steps?_clauses (syscallName? : UInt32 → Option String) (rule : Rule) :
    (rule.clauses syscallName?).steps? = some
      ([.setList rule.list, .setAction rule.action] ++ rule.expressions.map .addExpression ++
        (rule.clauses syscallName?).selections.map (.select ∘ .ofText)) := by
  simp only [Clauses.steps?, clauses, FilterList.ofName?_name, Action.ofName?_name]
  rfl

/-! ### Expressions -/

namespace Entry

/-- An entry as a field expression. -/
def expression (e : Entry) : String :=
  e.field.name ++ e.operator.symbol ++ e.operand.written e.field

/-- An expression says all of an entry: its operand can be written and the operator ends where the
operand begins. -/
inductive Legible : Entry → Prop
  | number {field : Field} {op : Operator} {value : UInt32} (hfield : field ≠ .access) :
      Legible ⟨field, op, .number value⟩
  | text {field : Field} {op : Operator} {text : String} (hop : ¬op.GoesOn text.toList) :
      Legible ⟨field, op, .text (Utf8.encode text)⟩

theorem head?_written_number {field : Field} {value : UInt32} :
    ((Operand.number value).written field).toList.head? ≠ some '=' := by
  by_cases harch : field = .arch
  · rw [Operand.written, if_pos harch, Numeral.toList_hex, List.head?_cons]
    decide
  · rw [Operand.written, if_neg harch, Numeral.toList_toString]
    intro hhead
    have hdigit : ('=').isDigit = true :=
      Nat.isDigit_of_mem_toDigits (by decide) (by decide) (List.mem_of_head? hhead)
    exact absurd hdigit (by decide)

/-- An entry is read from its expression. -/
theorem addition?_expression (machine : Machine) {e : Entry} (hfits : e.Fits) (h : e.Legible) :
    (Draft.Step.addExpression e.expression).addition? machine.abi = some e := by
  cases h with
  | number hfield =>
      rename_i field op value
      have hsplit : Operator.split? (expression ⟨field, op, .number value⟩) =
          some (field.name, op, (Operand.number value).written field) :=
        Operator.split?_written field.name_plain fun hgoes => head?_written_number hgoes.2
      cases hfits with
      | number hkind =>
          simp [Draft.Step.addition?, hsplit, Field.ofName?_name, hkind,
            fieldOperand?_written machine hfield]
  | text hop =>
      rename_i field op text
      have hwritten : (Operand.text (Utf8.encode text)).written field = text :=
        Utf8.lossy_encode text
      have hsplit : Operator.split? (expression ⟨field, op, .text (Utf8.encode text)⟩) =
          some (field.name, op, text) := by
        rw [expression, hwritten]
        exact Operator.split?_written field.name_plain hop
      cases hfits with
      | text hkind hlength => simp [Draft.Step.addition?, hsplit, Field.ofName?_name, hkind]

end Entry

/-- The expressions of a rule are those of the entries that it is laid out from. -/
theorem Sketch.Describes.expressions {sketch : Sketch} {rule : Rule} (h : sketch.Describes rule) :
    rule.expressions = sketch.entries.map Entry.expression := by
  rw [Rule.expressions, Rule.operands, h.predicates, h.trailer,
    Predicate.operands_map_predicate h.fits, List.map_map]
  rfl

/-! ### Selections -/

namespace Selection

/-- A selected number, by name where a name is known. -/
def ofMember (syscallName? : UInt32 → Option String) (nr : UInt32) : Selection :=
  match syscallName? nr with
  | some text => .name text
  | none => .number nr

/-- What a number is written as is read as the number again. -/
theorem numbers_ofText_ofMember (machine : Machine) (nr : UInt32) :
    (ofText (ofMember machine.abi.syscallName? nr).text).numbers machine.abi = {nr.toNat} := by
  cases hname : machine.abi.syscallName? nr with
  | some text =>
      obtain ⟨hall, hnumber⟩ := Machine.number?_of_syscallName? hname
      have hread : ofText text = .name text := by
        rw [ofText]
        cases hunsigned : Numeral.unsigned UInt32.size text with
        | ok n => exact absurd hunsigned (Machine.unsigned_of_syscallName? hname _ n)
        | error fault => rfl
      rw [ofMember, hname]
      show (ofText text).numbers machine.abi = {nr.toNat}
      simp only [hread, numbers, if_neg hall, hnumber]
  | none =>
      have hread : Numeral.unsigned UInt32.size (toString nr.toNat) = .ok nr.toNat := by
        rw [Numeral.unsigned, Numeral.toList_toString]
        exact Numeral.natural_toDigits (by decide) (by decide) nr.toNat_lt_size
      rw [ofMember, hname]
      show (ofText (toString nr.toNat)).numbers machine.abi = {nr.toNat}
      simp only [ofText, hread, numbers, UInt32.ofNat_toNat]

theorem numbers_ofText_all (abi : Abi) :
    (ofText "all").numbers abi = Finset.range maxSyscalls := rfl

end Selection

namespace Rule

theorem selections_eq (syscallName? : UInt32 → Option String) (rule : Rule) :
    rule.selections syscallName? = if rule.syscalls = .all then [.all]
      else rule.syscalls.members.map (Selection.ofMember syscallName?) := rfl

variable (machine : Machine) (rule : Rule)

/-- The syscall clauses of a rule stand for the numbers that it selects. -/
theorem mem_numbers_clauses {n : ℕ} :
    (∃ text ∈ (rule.clauses machine.abi.syscallName?).selections,
      n ∈ (Selection.ofText text).numbers machine.abi) ↔ rule.syscalls.getLsbD n = true := by
  simp only [clauses, List.mem_map, exists_exists_and_eq_and]
  rw [selections_eq]
  by_cases hall : rule.syscalls = .all
  · rw [if_pos hall, hall, SyscallSet.getLsbD_all, ← Finset.mem_range]
    simp only [List.mem_singleton, exists_eq_left, Selection.text, Selection.numbers_ofText_all]
  · rw [if_neg hall, ← SyscallSet.mem_members]
    simp only [List.mem_map, exists_exists_and_eq_and, Selection.numbers_ofText_ofMember,
      Finset.mem_singleton, @eq_comm _ n]

theorem nonempty_numbers_clauses {text : String}
    (h : text ∈ (rule.clauses machine.abi.syscallName?).selections) :
    ((Selection.ofText text).numbers machine.abi).Nonempty := by
  obtain ⟨selection, hselection, rfl⟩ := List.mem_map.1 h
  rw [selections_eq] at hselection
  by_cases hall : rule.syscalls = .all
  · rw [if_pos hall, List.mem_singleton] at hselection
    rw [hselection]
    exact Finset.nonempty_range_iff.2 (by decide)
  · rw [if_neg hall] at hselection
    obtain ⟨nr, -, rfl⟩ := List.mem_map.1 hselection
    rw [Selection.numbers_ofText_ofMember]
    exact Finset.singleton_nonempty _

end Rule

end LinuxAudit
