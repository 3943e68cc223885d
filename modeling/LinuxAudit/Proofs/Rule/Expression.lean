import Mathlib
import LinuxAudit.Abi.Machine
import LinuxAudit.Proofs.Rule.NumberOperand

/-! Written field expressions are read back. `split?_written` divides one into name, operator and
value; `fieldOperand?_written` reads the value of a numeric field. -/

namespace LinuxAudit

/-! ### Name, operator and value -/

namespace Operator

/-- An operator and the value behind it begin with the symbol of a longer operator. -/
def GoesOn (op : Operator) (value : List Char) : Prop :=
  (op = .bitMask ∨ op = .lessThan ∨ op = .greaterThan) ∧ value.head? = some '='

/-- The longest symbol in front of a value is the operator's own, unless the two go on together. -/
theorem find?_longestFirst {op : Operator} {value : List Char} (h : ¬op.GoesOn value) :
    longestFirst.find? (·.symbol.toList.isPrefixOf (op.symbol.toList ++ value)) = some op := by
  cases value with
  | nil => cases op <;> decide
  | cons c value =>
      have hc (hop : op = .bitMask ∨ op = .lessThan ∨ op = .greaterThan) : ('=' == c) = false := by
        refine beq_eq_false_iff_ne.2 ?_
        rintro rfl
        exact h ⟨hop, rfl⟩
      cases op with
      | bitMask => simp [longestFirst, List.find?, symbol, List.isPrefixOf, hc (.inl rfl)]
      | lessThan => simp [longestFirst, List.find?, symbol, List.isPrefixOf, hc (.inr (.inl rfl))]
      | greaterThan =>
          simp [longestFirst, List.find?, symbol, List.isPrefixOf, hc (.inr (.inr rfl))]
      | _ => rfl

theorem exists_symbol (op : Operator) :
    ∃ c rest, op.symbol.toList = c :: rest ∧ isSymbolChar c = true := by
  cases op <;> exact ⟨_, _, rfl, rfl⟩

/-- An expression is divided at its operator. -/
theorem split?_written {name : String} {op : Operator} {value : String}
    (hname : name.toList.all (!isSymbolChar ·) = true) (hvalue : ¬op.GoesOn value.toList) :
    split? (name ++ op.symbol ++ value) = some (name, op, value) := by
  have hplain (c : Char) (hc : c ∈ name.toList) : (!isSymbolChar c) = true :=
    List.all_eq_true.1 hname c hc
  have hexpression : (name ++ op.symbol ++ value).toList =
      name.toList ++ (op.symbol.toList ++ value.toList) := by
    rw [String.toList_append, String.toList_append, List.append_assoc]
  obtain ⟨c, rest, hsymbol, hc⟩ := exists_symbol op
  have hbehind : op.symbol.toList ++ value.toList = c :: (rest ++ value.toList) := by
    rw [hsymbol, List.cons_append]
  have htake : (name.toList ++ (op.symbol.toList ++ value.toList)).takeWhile (!isSymbolChar ·) =
      name.toList := by
    rw [List.takeWhile_append_of_pos hplain, hbehind, List.takeWhile_cons_of_neg (by simp [hc]),
      List.append_nil]
  have hdrop : (name.toList ++ (op.symbol.toList ++ value.toList)).dropWhile (!isSymbolChar ·) =
      op.symbol.toList ++ value.toList := by
    rw [List.dropWhile_append_of_pos hplain, hbehind, List.dropWhile_cons_of_neg (by simp [hc])]
  simp only [split?, hexpression, htake, hdrop, find?_longestFirst hvalue, Option.map_some,
    String.ofList_toList, ← String.length_toList, List.drop_left]

end Operator

theorem Field.name_plain (field : Field) :
    field.name.toList.all (!Operator.isSymbolChar ·) = true := by
  cases field <;> decide +kernel

/-! ### Operands -/

namespace Machine

theorem ofKernelName?_of_head {text : String} (h : text.toList.head? = some '0') :
    ofKernelName? text = none := by
  unfold ofKernelName?
  split
  all_goals first | rfl | exact absurd h (by decide)

/-- No name of an architecture starts with a zero. -/
theorem arch?_of_head (machine : Machine) {text : String} (h : text.toList.head? = some '0') :
    machine.arch? text = none := by
  unfold arch?
  split
  case h_7 => rw [ofKernelName?_of_head h, Option.map_none]
  all_goals exact absurd h (by decide)

end Machine

/-- The value of a numeric field is read as it was written, but for access, whose number is no
letters. -/
theorem fieldOperand?_written (machine : Machine) {field : Field} (hfield : field ≠ .access)
    (value : UInt32) :
    fieldOperand? machine.abi field ((Operand.number value).written field) = some value := by
  by_cases harch : field = .arch
  · subst harch
    have hhead : (Numeral.hex value.toNat).toList.head? = some '0' := by
      rw [Numeral.toList_hex, List.head?_cons]
    show (machine.arch? (Numeral.hex value.toNat)).or (numberOperand? (Numeral.hex value.toNat)) =
      some value
    rw [machine.arch?_of_head hhead, numberOperand?_hex, Option.none_or]
  · rw [Operand.written, if_neg harch]
    cases field with
    | arch => exact absurd rfl harch
    | access => exact absurd rfl hfield
    | _ => exact numberOperand?_decimal value

end LinuxAudit
