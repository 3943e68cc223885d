import Mathlib
import LinuxAudit.Proofs.Rule.Expression

/-! The grammar of field expressions: a name without operator characters, an operator, and a value
that does not prolong the operator. Every expression either falls into such parts or has no operator,
`exists_parts_or_undivided`, and `split?_exact` says that splitting tells the two apart and finds the
parts, which are the only ones. -/

namespace LinuxAudit.Operator

/-- The characters that operators are written with. -/
def marks : List Char :=
  ['=', '!', '<', '>', '&']

/-- An expression falls into a name, an operator and a value. The operator is the first in it, and
the longest there. -/
structure Parts (expression name : String) (op : Operator) (value : String) : Prop where
  written : expression = name ++ op.symbol ++ value
  plain : ∀ c ∈ name.toList, c ∉ marks
  ended : ¬op.GoesOn value.toList

/-- An expression has no operator where one should start. -/
inductive Undivided (expression : String) : Prop
  /-- It has none of the characters. -/
  | plain (h : ∀ c ∈ expression.toList, c ∉ marks)
  /-- The first of them is a `!` without the `=` that belongs to it. -/
  | lone (front behind : List Char) (h : expression.toList = front ++ '!' :: behind)
      (hfront : ∀ c ∈ front, c ∉ marks) (hbehind : behind.head? ≠ some '=')

theorem isSymbolChar_iff {c : Char} : isSymbolChar c = true ↔ c ∈ marks := by
  simp [isSymbolChar, marks, or_assoc]

theorem not_isSymbolChar_iff {c : Char} : (!isSymbolChar c) = true ↔ c ∉ marks := by
  rw [Bool.not_eq_true', ← Bool.not_eq_true, isSymbolChar_iff]

/-- Characters either hold no mark or can be cut at the first one. -/
theorem plain_or_exists_mark (cs : List Char) :
    (∀ c ∈ cs, c ∉ marks) ∨
      ∃ front c behind, cs = front ++ c :: behind ∧ (∀ d ∈ front, d ∉ marks) ∧ c ∈ marks := by
  induction cs with
  | nil => exact .inl fun c hc => absurd hc List.not_mem_nil
  | cons c cs ih =>
      by_cases hc : c ∈ marks
      · exact .inr ⟨[], c, cs, rfl, fun d hd => absurd hd List.not_mem_nil, hc⟩
      · rcases ih with hplain | ⟨front, d, behind, rfl, hfront, hd⟩
        · exact .inl (List.forall_mem_cons.2 ⟨hc, hplain⟩)
        · exact .inr ⟨c :: front, d, behind, rfl, List.forall_mem_cons.2 ⟨hc, hfront⟩, hd⟩

/-- Where a mark stands an operator starts, unless it is a `!` alone. -/
theorem lone_or_exists_symbol {c : Char} (hc : c ∈ marks) (behind : List Char) :
    (c = '!' ∧ behind.head? ≠ some '=') ∨
      ∃ (op : Operator) (value : List Char),
        c :: behind = op.symbol.toList ++ value ∧ ¬op.GoesOn value := by
  -- An equals sign behind the mark belongs to the operator, unless the mark is one itself.
  by_cases hequal : behind.head? = some '='
  · obtain ⟨value, rfl⟩ := List.head?_eq_some_iff.1 hequal
    simp only [marks, List.mem_cons, List.not_mem_nil, or_false] at hc
    rcases hc with rfl | rfl | rfl | rfl | rfl
    · exact .inr ⟨.equal, '=' :: value, rfl, by simp [GoesOn]⟩
    · exact .inr ⟨.notEqual, value, rfl, by simp [GoesOn]⟩
    · exact .inr ⟨.atMost, value, rfl, by simp [GoesOn]⟩
    · exact .inr ⟨.atLeast, value, rfl, by simp [GoesOn]⟩
    · exact .inr ⟨.bitTest, value, rfl, by simp [GoesOn]⟩
  · have hended (op : Operator) : ¬op.GoesOn behind := fun h => hequal h.2
    simp only [marks, List.mem_cons, List.not_mem_nil, or_false] at hc
    rcases hc with rfl | rfl | rfl | rfl | rfl
    · exact .inr ⟨.equal, behind, rfl, hended _⟩
    · exact .inl ⟨rfl, hequal⟩
    · exact .inr ⟨.lessThan, behind, rfl, hended _⟩
    · exact .inr ⟨.greaterThan, behind, rfl, hended _⟩
    · exact .inr ⟨.bitMask, behind, rfl, hended _⟩

theorem exists_parts_or_undivided (expression : String) :
    (∃ name op value, Parts expression name op value) ∨ Undivided expression := by
  rcases plain_or_exists_mark expression.toList with
    hplain | ⟨front, c, behind, hexpression, hfront, hc⟩
  · exact .inr (.plain hplain)
  · rcases lone_or_exists_symbol hc behind with ⟨rfl, hbehind⟩ | ⟨op, value, hsymbol, hended⟩
    · exact .inr (.lone front behind hexpression hfront hbehind)
    · refine .inl ⟨String.ofList front, op, String.ofList value, ?_, ?_, ?_⟩
      · apply String.toList_inj.1
        rw [hexpression, hsymbol]
        simp
      · rwa [String.toList_ofList]
      · rwa [String.toList_ofList]

/-! ### Splitting -/

theorem Parts.split? {expression name : String} {op : Operator} {value : String}
    (h : Parts expression name op value) :
    Operator.split? expression = some (name, op, value) := by
  have hname : name.toList.all (!isSymbolChar ·) = true := by
    rw [List.all_eq_true]
    intro c hc
    exact not_isSymbolChar_iff.2 (h.plain c hc)
  rw [h.written]
  exact split?_written hname h.ended

/-- No symbol stands in front of a `!` alone. -/
theorem find?_lone {behind : List Char} (h : behind.head? ≠ some '=') :
    longestFirst.find? (·.symbol.toList.isPrefixOf ('!' :: behind)) = none := by
  rw [List.find?_eq_none]
  intro op hop hsymbol
  obtain ⟨value, hvalue⟩ := List.isPrefixOf_iff_prefix.1 hsymbol
  cases op with
  | notEqual =>
      obtain rfl : '=' :: value = behind := (List.cons.inj hvalue).2
      exact h rfl
  | _ => exact absurd (List.cons.inj hvalue).1 (by decide)

theorem Undivided.split? {expression : String} (h : Undivided expression) :
    Operator.split? expression = none := by
  cases h with
  | plain h =>
      have hrest : expression.toList.dropWhile (!isSymbolChar ·) = [] := by
        rw [List.dropWhile_eq_nil_iff]
        intro c hc
        exact not_isSymbolChar_iff.2 (h c hc)
      rw [Operator.split?, hrest]
      rfl
  | lone front behind h hfront hbehind =>
      have hplain (c : Char) (hc : c ∈ front) : (!isSymbolChar c) = true :=
        not_isSymbolChar_iff.2 (hfront c hc)
      have hrest : expression.toList.dropWhile (!isSymbolChar ·) = '!' :: behind := by
        rw [h, List.dropWhile_append_of_pos hplain]
        exact List.dropWhile_cons_of_neg (by decide)
      rw [Operator.split?, hrest, find?_lone hbehind, Option.map_none]

/-- Splitting finds the parts of an expression, which are the only ones, and fails just if it has no
operator where one should start. -/
theorem split?_exact (expression : String) :
    (∀ name op value,
      split? expression = some (name, op, value) ↔ Parts expression name op value) ∧
    {(name, op, value) : String × Operator × String |
      Parts expression name op value}.Subsingleton ∧
    (split? expression = none ↔ Undivided expression) := by
  refine ⟨fun name op value => ⟨fun h => ?_, Parts.split?⟩, ?_, fun h => ?_, Undivided.split?⟩
  · rcases exists_parts_or_undivided expression with ⟨name', op', value', hparts⟩ | hnone
    · have hsame := hparts.split?.symm.trans h
      simp only [Option.some.injEq, Prod.mk.injEq] at hsame
      obtain ⟨rfl, rfl, rfl⟩ := hsame
      exact hparts
    · rw [hnone.split?] at h
      cases h
  · rintro ⟨name, op, value⟩ hparts ⟨name', op', value'⟩ hparts'
    exact Option.some.inj (hparts.split?.symm.trans hparts'.split?)
  · rcases exists_parts_or_undivided expression with ⟨name, op, value, hparts⟩ | hnone
    · rw [hparts.split?] at h
      cases h
    · exact hnone

end LinuxAudit.Operator
