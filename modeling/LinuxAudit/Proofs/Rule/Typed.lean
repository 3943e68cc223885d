import Mathlib
import LinuxAudit.Proofs.Rule.Expression
import LinuxAudit.Proofs.Rule.Limits

/-! A field expression does what the edit does that is given field, operator and value apart:
`addExpression_written`. The kinds of access that an expression can name are those that a watch can be
narrowed to, `Access.valid_of_parse?`, and a path is taken by an expression just if it is taken as a
watch; `addExpression_agrees` puts this together. -/

namespace LinuxAudit

/-! ### Names and operators -/

/-- An equals sign ends an operator. -/
theorem Operator.not_goesOn_equal (value : List Char) : ¬Operator.equal.GoesOn value := by
  simp [GoesOn]

theorem Field.name_of_ofName? {name : String} {field : Field} (h : ofName? name = some field) :
    name = "loginuid" ∨ name = field.name := by
  rw [ofName?] at h
  split_ifs at h with hlogin
  · exact .inl (beq_iff_eq.1 hlogin)
  · have hfound : field.name = name := by simpa using List.find?_some h
    exact .inr hfound.symm

/-- A name that a field goes by has no operator in it. -/
theorem Field.plain_of_ofName? {name : String} {field : Field} (h : ofName? name = some field) :
    name.toList.all (!Operator.isSymbolChar ·) = true := by
  rcases name_of_ofName? h with rfl | rfl
  · decide
  · exact field.name_plain

/-! ### Access -/

namespace Access

/-- Kinds of access that a watch can be narrowed to: at least one, and no unknown ones. -/
structure Valid (access : UInt32) : Prop where
  nonempty : access ≠ 0
  known : access &&& ~~~all = 0

theorem known_or {a b : UInt32} (ha : a &&& ~~~all = 0) (hb : b &&& ~~~all = 0) :
    (a ||| b) &&& ~~~all = 0 := by
  have hdistributes : (a ||| b) &&& ~~~all = (a &&& ~~~all) ||| (b &&& ~~~all) := by
    apply UInt32.toBitVec_inj.1
    simp only [UInt32.toBitVec_and, UInt32.toBitVec_or]
    exact BitVec.and_or_distrib_right
  rw [hdistributes, ha, hb]
  rfl

theorem valid_of_ofLetter? {c : Char} {bit : UInt32} (h : ofLetter? c = some bit) : Valid bit := by
  unfold ofLetter? at h
  split at h
  all_goals cases h
  all_goals exact ⟨by decide, by decide⟩

/-- Letters add kinds of access to those that are there. -/
theorem known_of_addLetters {bits access : UInt32} {letters : List Char}
    (h : addLetters bits letters = some access) (hbits : bits &&& ~~~all = 0) :
    access &&& ~~~all = 0 ∧ (bits ≠ 0 → access ≠ 0) := by
  induction letters generalizing bits with
  | nil =>
      cases h
      exact ⟨hbits, id⟩
  | cons c letters ih =>
      obtain ⟨bit, hbit, hrest⟩ := Option.bind_eq_some_iff.1 h
      obtain ⟨hknown, hnonempty⟩ := ih hrest (known_or hbits (valid_of_ofLetter? hbit).known)
      refine ⟨hknown, fun hne => hnonempty fun hzero => ?_⟩
      exact hne (UInt32.or_eq_zero_iff.1 hzero).1

theorem valid_of_parse? {text : String} {access : UInt32} (h : parse? text = some access) :
    Valid access := by
  rw [parse?] at h
  cases hletters : text.toList with
  | nil =>
      rw [hletters] at h
      cases h
  | cons c letters =>
      rw [hletters] at h
      obtain ⟨bit, hbit, hrest⟩ := Option.bind_eq_some_iff.1 h
      have hvalid := valid_of_ofLetter? hbit
      rw [UInt32.zero_or] at hrest
      obtain ⟨hknown, hnonempty⟩ := known_of_addLetters hrest hvalid.known
      exact ⟨hnonempty hvalid.nonempty, hknown⟩

end Access

namespace Draft

variable {abi : Abi} {draft : Draft}

theorem restrictAccess_of_valid {access : UInt32} (h : Access.Valid access) :
    restrictAccess access = addNumber .access .equal access := by
  rw [restrictAccess, if_neg (not_or.2 ⟨h.nonempty, not_not.2 h.known⟩)]

/-! ### Expressions -/

/-- An expression does what is done with the field, the operator and the value that it is written
from. -/
theorem addExpression_written {name : String} {field : Field} {op : Operator} {value : String}
    (hname : Field.ofName? name = some field) (hended : ¬op.GoesOn value.toList) :
    addExpression abi (name ++ op.symbol ++ value) =
      if field.isString then addText field op value
      else match fieldOperand? abi field value with
        | some number => addNumber field op number
        | none => throw (.invalidValue field value) := by
  rw [addExpression, Operator.split?_written (Field.plain_of_ofName? hname) hended]
  simp only [hname]
  split_ifs with hfield
  · rfl
  · cases fieldOperand? abi field value <;> rfl

theorem addExpression_access {letters : String} {access : UInt32}
    (h : Access.parse? letters = some access) :
    addExpression abi ("perm=" ++ letters) = restrictAccess access := by
  have hwritten : "perm=" ++ letters = Field.access.name ++ Operator.equal.symbol ++ letters := rfl
  rw [hwritten,
    addExpression_written (Field.ofName?_name .access) (Operator.not_goesOn_equal letters.toList),
    restrictAccess_of_valid (Access.valid_of_parse? h)]
  simp only [Field.isString, fieldOperand?, h]
  rfl

/-- Two attempts both succeed or both fail, and leave the same draft. -/
def Alike (attempt other : Option RuleError × Draft) : Prop :=
  (attempt.1 = none ↔ other.1 = none) ∧ attempt.2 = other.2

/-- A bare path is stored as a text just if it is watched. -/
theorem alike_addText_watch {field : Field} {edit : Bytes → Edit Unit}
    (hedit : Watches field edit) {text : String} (habsolute : (Utf8.encode text).head? = some 0x2F)
    (hbare : bare (Utf8.encode text) = Utf8.encode text) :
    Alike (draft.attempt (addText field .equal text)) (draft.attempt (edit (Utf8.encode text))) := by
  rw [attempt_addText, attempt_watch hedit, if_pos hedit.isString, if_pos habsolute, hbare]
  split_ifs with hfits
  · exact ⟨Iff.rfl, rfl⟩
  · exact ⟨iff_of_false nofun nofun, rfl⟩

theorem alike_addExpression_watch {field : Field} {edit : Bytes → Edit Unit}
    (hedit : Watches field edit) {text : String} (habsolute : (Utf8.encode text).head? = some 0x2F)
    (hbare : Utf8.encode text = [0x2F] ∨ (Utf8.encode text).getLast? ≠ some 0x2F) :
    Alike (draft.attempt (addExpression abi (field.name ++ "=" ++ text)))
      (draft.attempt (edit (Utf8.encode text))) := by
  have hwritten : field.name ++ "=" ++ text = field.name ++ Operator.equal.symbol ++ text := rfl
  have hpath : Utf8.encode text ≠ [] := List.ne_nil_of_mem (List.mem_of_head? habsolute)
  rw [hwritten,
    addExpression_written (Field.ofName?_name field) (Operator.not_goesOn_equal text.toList),
    if_pos hedit.isString]
  exact alike_addText_watch hedit habsolute (bare_of_getLast? hbare hpath)

/-- A field expression comes to the same as the edit that is given field, operator and value apart,
where the operator does not go on in the value: the text of a string field is stored, and the
number that the value of another field says is compared with; a value that says none is refused. So
access is narrowed by letters as by their bits, and a path is taken just if it is taken as a watch. -/
theorem addExpression_agrees (abi : Abi) (draft : Draft) :
    (∀ (name : String) (field : Field) (op : Operator) (value : String),
      Field.ofName? name = some field → ¬op.GoesOn value.toList →
        draft.attempt (addExpression abi (name ++ op.symbol ++ value)) =
          if field.isString then draft.attempt (addText field op value)
          else match
            if field = .arch then (abi.arch? value).or (numberOperand? value)
            else if field = .access then Access.parse? value
            else numberOperand? value with
          | some number => draft.attempt (addNumber field op number)
          | none => (some (.invalidValue field value), draft)) ∧
    (∀ letters access, Access.parse? letters = some access →
      draft.attempt (addExpression abi ("perm=" ++ letters)) =
        draft.attempt (restrictAccess access)) ∧
    ∀ text path, Utf8.encode text = path → path.head? = some 0x2F →
      path = [0x2F] ∨ path.getLast? ≠ some 0x2F →
        Alike (draft.attempt (addExpression abi ("dir=" ++ text)))
          (draft.attempt (watchTree path)) ∧
        Alike (draft.attempt (addExpression abi ("path=" ++ text)))
          (draft.attempt (watchFile path)) := by
  refine ⟨?_, fun letters access h => ?_, ?_⟩
  · intro name field op value hname hended
    have hoperand : fieldOperand? abi field value =
        if field = .arch then (abi.arch? value).or (numberOperand? value)
        else if field = .access then Access.parse? value
        else numberOperand? value := by
      cases field <;> rfl
    rw [addExpression_written hname hended, ← hoperand]
    split_ifs with hfield
    · rfl
    · cases fieldOperand? abi field value <;> rfl
  · rw [addExpression_access h]
  · rintro text path rfl habsolute hbare
    exact ⟨alike_addExpression_watch .tree habsolute hbare,
      alike_addExpression_watch .file habsolute hbare⟩

theorem addExpression_agrees_etc :
    Field.ofName? "loginuid" = some .loginUid ∧ ¬Operator.atLeast.GoesOn "1000".toList ∧
    attempt {} (addExpression Machine.x8664.abi ("loginuid" ++ ">=" ++ "1000")) =
      attempt {} (addNumber .loginUid .atLeast 1000) ∧
    (attempt {} (addNumber .loginUid .atLeast 1000)).2.rule.predicates =
      [⟨.loginUid, .atLeast, 1000⟩] ∧
    Access.parse? "wa" = some 10 ∧
    attempt {} (addExpression Machine.x8664.abi ("perm=" ++ "wa")) =
      attempt {} (restrictAccess 10) ∧
    (attempt {} (restrictAccess 10)).2.rule.predicates = [⟨.access, .equal, 10⟩] ∧
    Utf8.encode "/etc" = [0x2F, 0x65, 0x74, 0x63] ∧
    Alike (attempt {} (addExpression Machine.x8664.abi ("dir=" ++ "/etc")))
      (attempt {} (watchTree [0x2F, 0x65, 0x74, 0x63])) ∧
    (attempt {} (watchTree [0x2F, 0x65, 0x74, 0x63])).2.rule.operands =
      [(⟨.tree, .equal, 4⟩, .text [0x2F, 0x65, 0x74, 0x63])] := by
  obtain ⟨hwritten, haccess, hwatch⟩ := addExpression_agrees Machine.x8664.abi {}
  have hname : Field.ofName? "loginuid" = some .loginUid := rfl
  have hended : ¬Operator.atLeast.GoesOn "1000".toList := by simp [Operator.GoesOn]
  have hletters : Access.parse? "wa" = some 10 := by decide
  have hpath : Utf8.encode "/etc" = [0x2F, 0x65, 0x74, 0x63] := by decide
  refine ⟨hname, hended, ?_, by decide, hletters, haccess _ _ hletters, by decide, hpath, ?_,
    by decide⟩
  · exact hwritten "loginuid" .loginUid .atLeast "1000" hname hended
  · exact (hwatch _ _ hpath rfl (.inr (by decide))).1

end Draft

end LinuxAudit
