import Mathlib
import LinuxAudit.Proofs.Outcome
import LinuxAudit.Proofs.Rule.Layout

/-! Which byte strings are read as which rule. A rule leaves three things open in its images: the
entries of the three arrays behind the last predicate, and what follows the trailer. -/

namespace LinuxAudit.Rule

theorem known_eq_ok_iff {α : Type} {kind : CodeKind} {lookup : UInt32 → Option α}
    {code : UInt32} {a : α} : known kind lookup code = .ok a ↔ lookup code = some a := by
  rw [known]
  cases lookup code with
  | none => simp
  | some b => simp

theorem known_filterList_iff {code : UInt32} {list : FilterList} :
    known .filterList FilterList.ofCode? code = .ok list ↔ code = list.code := by
  rw [known_eq_ok_iff]
  exact ⟨fun h => (FilterList.code_of_ofCode? h).symm, fun h => h ▸ FilterList.ofCode?_code list⟩

theorem known_action_iff {code : UInt32} {action : Action} :
    known .action Action.ofCode? code = .ok action ↔ code = action.code := by
  rw [known_eq_ok_iff]
  exact ⟨fun h => (Action.code_of_ofCode? h).symm, fun h => h ▸ Action.ofCode?_code action⟩

theorem known_field_iff {code : UInt32} {field : Field} :
    known .field Field.ofCode? code = .ok field ↔ code = field.code := by
  rw [known_eq_ok_iff]
  exact ⟨fun h => (Field.code_of_ofCode? h).symm, fun h => h ▸ Field.ofCode?_code field⟩

theorem known_operator_iff {code : UInt32} {op : Operator} :
    known .operator Operator.ofCode? code = .ok op ↔ code = op.code := by
  rw [known_eq_ok_iff]
  exact ⟨fun h => (Operator.code_of_ofCode? h).symm, fun h => h ▸ Operator.ofCode?_code op⟩

theorem decodePredicate_eq_ok_iff {field value operator : UInt32} {p : Predicate} :
    decodePredicate field value operator = .ok p ↔
      field = p.field.code ∧ value = p.value ∧ operator = p.operator.code := by
  simp only [decodePredicate, except_bind_eq_ok_iff, known_field_iff, known_operator_iff]
  constructor
  · rintro ⟨f, rfl, op, rfl, h⟩
    cases h
    exact ⟨rfl, rfl, rfl⟩
  · rintro ⟨rfl, rfl, rfl⟩
    exact ⟨p.field, rfl, p.operator, rfl, rfl⟩

/-- The arrays are read entry by entry up to the count, and nothing behind it matters. -/
theorem decodePredicates_eq_ok_iff {count : Nat} {fields values operators : List UInt32}
    (hfields : count ≤ fields.length) (hvalues : count ≤ values.length)
    (hoperators : count ≤ operators.length) {ps : List Predicate} :
    decodePredicates count fields values operators = .ok ps ↔
      fields.take count = ps.map (·.field.code) ∧ values.take count = ps.map (·.value) ∧
      operators.take count = ps.map (·.operator.code) := by
  induction count generalizing fields values operators ps with
  | zero =>
      simp only [decodePredicates, List.take_zero, List.nil_eq, List.map_eq_nil_iff, and_self]
      exact ⟨fun h => (Except.ok.inj h).symm, fun h => h ▸ rfl⟩
  | succ count ih =>
      match fields, values, operators, hfields, hvalues, hoperators with
      | f :: fields, v :: values, o :: operators, hfields, hvalues, hoperators =>
          have ih := @ih fields values operators (Nat.le_of_succ_le_succ hfields)
            (Nat.le_of_succ_le_succ hvalues) (Nat.le_of_succ_le_succ hoperators)
          simp only [decodePredicates, except_bind_eq_ok_iff, decodePredicate_eq_ok_iff, ih]
          constructor
          · rintro ⟨p, ⟨rfl, rfl, rfl⟩, rest, ⟨h1, h2, h3⟩, h⟩
            cases h
            simp [h1, h2, h3]
          · cases ps with
            | nil => simp
            | cons p ps =>
                simp only [List.take_succ_cons, List.map_cons, List.cons.injEq]
                rintro ⟨⟨h1, t1⟩, ⟨h2, t2⟩, h3, t3⟩
                exact ⟨p, ⟨h1, h2, h3⟩, ps, ⟨t1, t2, t3⟩, rfl⟩

/-- Only the entries up to the count are read. -/
theorem decodePredicates_append {count : Nat} {fields values operators : List UInt32}
    (hfields : count ≤ fields.length) (hvalues : count ≤ values.length)
    (hoperators : count ≤ operators.length) (f v o : List UInt32) :
    decodePredicates count (fields ++ f) (values ++ v) (operators ++ o) =
      decodePredicates count fields values operators := by
  induction count generalizing fields values operators with
  | zero => simp only [decodePredicates]
  | succ count ih =>
      match fields, values, operators, hfields, hvalues, hoperators with
      | _ :: fields, _ :: values, _ :: operators, hfields, hvalues, hoperators =>
          simp only [List.cons_append, decodePredicates]
          rw [@ih fields values operators (Nat.le_of_succ_le_succ hfields)
            (Nat.le_of_succ_le_succ hvalues) (Nat.le_of_succ_le_succ hoperators)]

namespace Layout

variable (l : Layout)

theorem drop_three_words : l.words.drop 3 =
    l.bitmap ++ (l.fields ++ (l.values ++ (l.operators ++ [l.trailerLength]))) := by
  simp [words]

theorem take_bitmap (rest : List UInt32) : (l.bitmap ++ rest).take bitmapWords = l.bitmap :=
  List.take_left' l.bitmap_length

theorem drop_bitmap (rest : List UInt32) : (l.bitmap ++ rest).drop bitmapWords = rest :=
  List.drop_left' l.bitmap_length

theorem drop_fields (rest : List UInt32) : (l.fields ++ rest).drop maxFields = rest :=
  List.drop_left' l.fields_length

theorem drop_values (rest : List UInt32) : (l.values ++ rest).drop maxFields = rest :=
  List.drop_left' l.values_length

theorem drop_operators (rest : List UInt32) : (l.operators ++ rest).drop maxFields = rest :=
  List.drop_left' l.operators_length

end Layout

/-- Reading a rule, said of the layout at the front of a byte string. -/
theorem decode_data (l : Layout) (rest : Bytes) :
    decode (l.data rest) = (do
      let list ← known .filterList FilterList.ofCode? l.list
      let action ← known .action Action.ofCode? l.action
      if l.count.toNat > maxFields then
        .error .tooManyFields
      else if rest.length < l.trailerLength.toNat then
        .error (.truncated (ruleHeaderSize + l.trailerLength.toNat) (l.data rest).length)
      else do
        let predicates ← decodePredicates l.count.toNat l.fields l.values l.operators
        if Predicate.textLength predicates ≠ l.trailerLength.toNat then
          .error (.stringTableMismatch (Predicate.textLength predicates) l.trailerLength.toNat)
        else
          .ok ⟨list, action, .ofWords l.bitmap, predicates,
            rest.take l.trailerLength.toNat⟩) := by
  have hlength : ¬(l.data rest).length < ruleHeaderSize := by
    rw [Layout.length_data]
    omega
  have htrailer : (l.data rest).length < ruleHeaderSize + l.trailerLength.toNat ↔
      rest.length < l.trailerLength.toNat := by
    rw [Layout.length_data]
    omega
  have h0 : l.words.getD 0 0 = l.list := rfl
  have h1 : l.words.getD 1 0 = l.action := rfl
  have h2 : l.words.getD 2 0 = l.count := rfl
  unfold decode
  simp only [except_throw_bind, if_neg hlength, Layout.words_take_data, Layout.drop_data, h0, h1,
    h2, l.drop_three_words, l.take_bitmap, l.drop_bitmap, l.drop_fields, l.drop_values,
    l.drop_operators, List.headD_cons, htrailer]
  by_cases hcount : l.count.toNat > maxFields
  · simp only [if_pos hcount]
  · have hle : l.count.toNat ≤ maxFields := Nat.le_of_not_lt hcount
    have hread := decodePredicates_append (hle.trans_eq l.fields_length.symm)
      (hle.trans_eq l.values_length.symm) (hle.trans_eq l.operators_length.symm)
      (l.values ++ (l.operators ++ [l.trailerLength])) (l.operators ++ [l.trailerLength])
      [l.trailerLength]
    simp only [hread, if_neg hcount]
    rfl

/-- A layout holds a rule: each word says what the rule has there, and the entries of the arrays up
to the count are those of the predicates. The entries behind them may be anything. -/
structure Layout.Holds (l : Layout) (rule : Rule) : Prop where
  list : l.list = rule.list.code
  action : l.action = rule.action.code
  count : l.count.toNat = rule.predicates.length
  bitmap : l.bitmap = rule.syscalls.words
  fields : l.fields.take rule.predicates.length = rule.predicates.map (·.field.code)
  values : l.values.take rule.predicates.length = rule.predicates.map (·.value)
  operators : l.operators.take rule.predicates.length = rule.predicates.map (·.operator.code)
  trailerLength : l.trailerLength.toNat = rule.trailer.length

/-- A byte string is read as a rule exactly if the rule is well-formed, its layout is at the front
and its trailer follows. -/
theorem decode_data_eq_ok_iff {l : Layout} {rest : Bytes} {rule : Rule} :
    decode (l.data rest) = .ok rule ↔
      rule.WellFormed ∧ l.Holds rule ∧ ∃ junk, rest = rule.trailer ++ junk := by
  simp only [decode_data, except_bind_eq_ok_iff, except_guard_eq_ok_iff, known_filterList_iff,
    known_action_iff]
  constructor
  · rintro ⟨list, hlist, action, haction, hcount, hrest, ps, hps, htexts, h⟩
    obtain rfl := Except.ok.inj h
    have hle : l.count.toNat ≤ maxFields := Nat.le_of_not_lt hcount
    obtain ⟨hf, hv, ho⟩ := (decodePredicates_eq_ok_iff (hle.trans_eq l.fields_length.symm)
      (hle.trans_eq l.values_length.symm) (hle.trans_eq l.operators_length.symm)).1 hps
    have hlen : ps.length = l.count.toNat := by
      have h := congrArg List.length hf
      rw [List.length_take, List.length_map, l.fields_length, Nat.min_eq_left hle] at h
      exact h.symm
    have htrailer : (rest.take l.trailerLength.toNat).length = l.trailerLength.toNat := by
      rw [List.length_take, Nat.min_eq_left (Nat.le_of_not_lt hrest)]
    refine ⟨⟨?_, ?_, ?_⟩, ⟨hlist, haction, hlen.symm, ?_, ?_, ?_, ?_, htrailer.symm⟩, ?_⟩
    · exact hlen.trans_le hle
    · exact (not_not.1 htexts).trans htrailer.symm
    · rw [htrailer]
      exact l.trailerLength.toNat_lt_size
    · exact (SyscallSet.words_ofWords l.bitmap_length).symm
    · rw [hlen]
      exact hf
    · rw [hlen]
      exact hv
    · rw [hlen]
      exact ho
    · exact ⟨rest.drop l.trailerLength.toNat, (List.take_append_drop _ _).symm⟩
  · rintro ⟨hwell, hl, junk, rfl⟩
    have hle : l.count.toNat ≤ maxFields := hl.count.trans_le hwell.fields
    refine ⟨rule.list, hl.list, rule.action, hl.action, Nat.not_lt.2 hle, ?_, rule.predicates,
      ?_, ?_, ?_⟩
    · rw [List.length_append, hl.trailerLength]
      omega
    · rw [hl.count] at hle ⊢
      exact (decodePredicates_eq_ok_iff (hle.trans_eq l.fields_length.symm)
        (hle.trans_eq l.values_length.symm) (hle.trans_eq l.operators_length.symm)).2
        ⟨hl.fields, hl.values, hl.operators⟩
    · exact not_not.2 (hwell.texts.trans hl.trailerLength.symm)
    · rw [hl.bitmap, SyscallSet.ofWords_words, hl.trailerLength, List.take_left]

/-! ### Rules as they are written -/

theorem length_padded {ws : List UInt32} (h : ws.length ≤ maxFields) :
    (padded ws).length = maxFields := by
  rw [padded, List.length_append, List.length_replicate]
  omega

/-- The layout that a rule is written with: zeros behind the last predicate. -/
def layout (rule : Rule) (h : rule.predicates.length ≤ maxFields) : Layout where
  list := rule.list.code
  action := rule.action.code
  count := UInt32.ofNat rule.predicates.length
  bitmap := rule.syscalls.words
  fields := padded (rule.predicates.map (·.field.code))
  values := padded (rule.predicates.map (·.value))
  operators := padded (rule.predicates.map (·.operator.code))
  trailerLength := UInt32.ofNat rule.trailer.length
  bitmap_length := SyscallSet.words_length _
  fields_length := length_padded (by rwa [List.length_map])
  values_length := length_padded (by rwa [List.length_map])
  operators_length := length_padded (by rwa [List.length_map])

theorem encode_eq_data (rule : Rule) (h : rule.predicates.length ≤ maxFields) :
    rule.encode = (rule.layout h).data rule.trailer := rfl

theorem take_padded {ws : List UInt32} {n : Nat} (h : ws.length = n) :
    (padded ws).take n = ws :=
  List.take_left' h

theorem layout_holds {rule : Rule} (h : rule.WellFormed) : (rule.layout h.fields).Holds rule where
  list := rfl
  action := rfl
  count := by
    have hcount := h.fields
    simp only [layout, UInt32.toNat_ofNat', maxFields] at hcount ⊢
    omega
  bitmap := rfl
  fields := take_padded (List.length_map _)
  values := take_padded (List.length_map _)
  operators := take_padded (List.length_map _)
  trailerLength := by
    have htrailer := h.trailer
    simp only [layout, UInt32.toNat_ofNat', UInt32.size] at htrailer ⊢
    omega

theorem length_encode {rule : Rule} (h : rule.predicates.length ≤ maxFields) :
    rule.encode.length = ruleHeaderSize + rule.trailer.length := by
  rw [rule.encode_eq_data h, Layout.length_data]

/-- A well-formed rule is read back, whatever follows it. -/
theorem decode_encode_append {rule : Rule} (h : rule.WellFormed) (junk : Bytes) :
    decode (rule.encode ++ junk) = .ok rule := by
  rw [rule.encode_eq_data h.fields, Layout.data, List.append_assoc, ← Layout.data]
  exact decode_data_eq_ok_iff.2 ⟨h, layout_holds h, junk, rfl⟩

/-- A rule cut short is refused, and the refusal asks for more than there is. -/
theorem decode_take_encode {rule : Rule} (h : rule.WellFormed) {n : Nat}
    (hn : n < rule.encode.length) :
    ∃ expected, n < expected ∧ decode (rule.encode.take n) = .error (.truncated expected n) := by
  have hlen : (rule.encode.take n).length = n := by
    rw [List.length_take, Nat.min_eq_left hn.le]
  by_cases hheader : n < ruleHeaderSize
  · refine ⟨ruleHeaderSize, hheader, ?_⟩
    rw [decode, hlen]
    simp only [if_pos hheader, except_throw_bind]
  · have hl := layout_holds h
    refine ⟨ruleHeaderSize + rule.trailer.length, (length_encode h.fields) ▸ hn, ?_⟩
    have htake : rule.encode.take n =
        (rule.layout h.fields).data (rule.trailer.take (n - ruleHeaderSize)) := by
      rw [rule.encode_eq_data h.fields, Layout.data, Layout.data, List.take_append,
        Bytes.ofWords_length, Layout.length_words, List.take_of_length_le]
      rw [Bytes.ofWords_length, Layout.length_words]
      omega
    have hcut : (rule.trailer.take (n - ruleHeaderSize)).length < rule.trailer.length := by
      rw [length_encode h.fields] at hn
      rw [List.length_take]
      omega
    rw [htake] at hlen ⊢
    rw [decode_data, known_filterList_iff.2 hl.list, known_action_iff.2 hl.action, hl.count,
      hl.trailerLength, hlen]
    simp only [bind, Except.bind, if_neg (Nat.not_lt.2 h.fields), if_pos hcut]

end LinuxAudit.Rule
