import Mathlib
import LinuxAudit.Netlink.Message
import LinuxAudit.Proofs.Bytes
import LinuxAudit.Proofs.Text.Numeral
import LinuxAudit.Proofs.Text.Utf8

/-! Records that begin with an identity. The identity is read back from the bytes of a record,
`ofRecord?_record`, and what the record says under it from its text. Neither looks further than to
the first closing bracket, and an identity is written without one; so what the record says may
imitate an identity, and the record is still read as it was written: `record_read_back`. -/

namespace LinuxAudit

namespace EventId

variable (id : EventId) (body : String)

/-- A record: an identity and what is said under it. -/
def record : String :=
  String.ofList opening ++ id.text ++ "): " ++ body

theorem toList_text : id.text.toList =
    (toString id.seconds.toNat).toList ++ (['.'] ++ (Numeral.padded 3 id.millis.toNat).toList) ++
      ([':'] ++ (toString id.serial.toNat).toList) := by
  simp only [text, String.toList_append, List.append_assoc]
  rfl

theorem toList_record : (id.record body).toList =
    opening ++ (id.text.toList ++ ("): ".toList ++ body.toList)) := by
  simp only [record, String.toList_append, String.toList_ofList, List.append_assoc]

theorem encode_record : Utf8.encode (id.record body) =
    opening.flatMap Utf8.encodeChar ++
      (Utf8.encode id.text ++ ([0x29] ++ ([0x3A, 0x20] ++ Utf8.encode body))) := by
  have hopening : Utf8.encode (String.ofList opening) = opening.flatMap Utf8.encodeChar := by
    rw [Utf8.encode, String.toList_ofList]
  have hclosing : Utf8.encode "): " = [0x29] ++ [0x3A, 0x20] := by decide
  simp only [record, Utf8.encode_append, hopening, hclosing, List.append_assoc]

/-! ### The identity -/

/-- An identity is written with digits, a point and a colon. -/
theorem not_mem_text {c : Char} (hdigit : Numeral.digit? 16 c = none) (hpoint : c ≠ '.')
    (hcolon : c ≠ ':') : c ∉ id.text.toList := by
  have hnumber (n : ℕ) : c ∉ (toString n).toList :=
    (Numeral.spells_toString n).not_mem (by decide) hdigit
  have hpadded (n : ℕ) : c ∉ (Numeral.padded 3 n).toList :=
    (Numeral.spells_padded 3 n).not_mem (by decide) hdigit
  simp only [toList_text, List.mem_append, List.mem_singleton, not_or]
  exact ⟨⟨hnumber _, hpoint, hpadded _⟩, hcolon, hnumber _⟩

/-- An identity is read back from its text, which is cut at the colon and then at the point. -/
theorem ofText?_text : ofText? id.text.toList = some id := by
  have htime : Text.cut? [':'] id.text.toList =
      some ((toString id.seconds.toNat).toList ++
        (['.'] ++ (Numeral.padded 3 id.millis.toNat).toList),
        (toString id.serial.toNat).toList) := by
    rw [toList_text]
    apply Text.cut?_append
    simp only [List.mem_append, List.mem_singleton, not_or]
    exact ⟨(Numeral.spells_toString _).not_mem (by decide) rfl, by decide,
      (Numeral.spells_padded 3 _).not_mem (by decide) rfl⟩
  have hseconds : Text.cut? ['.'] ((toString id.seconds.toNat).toList ++
        (['.'] ++ (Numeral.padded 3 id.millis.toNat).toList)) =
      some ((toString id.seconds.toNat).toList, (Numeral.padded 3 id.millis.toNat).toList) :=
    Text.cut?_append [] ((Numeral.spells_toString _).not_mem (by decide) rfl) _
  have hread {size n : ℕ} {digits : List Char} (hspells : Numeral.Spells 10 digits n)
      (hn : n < size) : (Numeral.natural 10 size digits).toOption = some n := by
    rw [except_toOption_eq_some_iff, Numeral.natural_eq_ok_iff (by decide)]
    exact ⟨hn, hspells.writes⟩
  simp only [ofText?, htime, hseconds, hread (Numeral.spells_toString _) id.seconds.toNat_lt_size,
    hread (Numeral.spells_padded 3 _) id.millis.toNat_lt_size,
    hread (Numeral.spells_toString _) id.serial.toNat_lt_size, Option.bind_eq_bind,
    Option.bind_some, UInt64.ofNat_toNat, UInt32.ofNat_toNat]
  rfl

theorem closing_not_mem_text : ')' ∉ id.text.toList :=
  id.not_mem_text rfl (by decide) (by decide)

/-- An identity is read back from a record, whatever the record says and whatever follows it. -/
theorem ofRecord?_record (behind : Bytes) :
    ofRecord? (Utf8.encode (id.record body) ++ behind) = some id := by
  have hbracket : (0x29 : UInt8) ∉ Utf8.encode id.text :=
    Utf8.not_mem_encode (by decide) id.closing_not_mem_text
  rw [ofRecord?, encode_record]
  simp only [List.append_assoc, Text.after?_append, Option.bind_eq_bind, Option.bind_some]
  rw [Text.cut?_append [] hbracket]
  simp only [Option.bind_some, Utf8.decode?_encode, ofText?_text]

end EventId

namespace Message

variable (id : EventId) {body : String}

theorem getLast?_record (hbody : body.toList.getLast? ≠ some '\x00') :
    (id.record body).toList.getLast? ≠ some '\x00' := by
  rw [id.toList_record, ← List.append_assoc, ← List.append_assoc, List.getLast?_append]
  cases hlast : body.toList.getLast? with
  | none =>
      -- Nothing is said, so the blank behind the identity comes last.
      rw [Option.none_or, List.getLast?_append]
      simp
  | some c =>
      rw [hlast] at hbody
      exact hbody

/-- A record is read as it was written, in a message of any header and with any number of zeros
behind it: the identity, what is said under it, and the text of both. -/
theorem record_read_back (header : Header) (hbody : body.toList.getLast? ≠ some '\x00')
    (zeros : ℕ) :
    let message : Message := ⟨header, Utf8.encode (id.record body) ++ List.replicate zeros 0⟩
    message.id? = some id ∧ message.body = body ∧ message.text = id.record body ∧
      Utf8.encode message.text = message.payload.rdropWhile (· == 0) := by
  intro message
  have hpayload : message.payload.rdropWhile (· == 0) = Utf8.encode (id.record body) := by
    rw [Bytes.rdropWhile_append_replicate, Utf8.rdropWhile_encode (getLast?_record id hbody)]
  have htext : message.text = id.record body := by
    show Utf8.lossy (message.payload.rdropWhile (· == 0)) = id.record body
    rw [hpayload, Utf8.lossy_encode]
  have hcut : Text.cut? "): ".toList (id.text.toList ++ ("): ".toList ++ body.toList)) =
      some (id.text.toList, body.toList) :=
    Text.cut?_append [':', ' '] id.closing_not_mem_text _
  refine ⟨id.ofRecord?_record body _, ?_, htext, ?_⟩
  · simp only [Message.body, htext, id.toList_record, Text.after?_append, Option.bind_some, hcut,
      String.ofList_toList]
  · rw [htext, hpayload]

/-- What a record says may look like the end of its identity and like another identity. -/
theorem record_read_back_imitating :
    let id : EventId := ⟨1700000000, 1042, 18446744073709551615⟩
    let body := "a) b): audit(7.008:9): c"
    let message : Message :=
      ⟨{ length := 0, type := .path }, Utf8.encode (id.record body) ++ List.replicate 3 0⟩
    body.toList.getLast? ≠ some '\x00' ∧
    message.text = "audit(1700000000.1042:18446744073709551615): a) b): audit(7.008:9): c" ∧
    message.id? = some id ∧ message.body = body := by
  intro id body message
  have hbody : body.toList.getLast? ≠ some '\x00' := by decide
  obtain ⟨hid, hsaid, htext, -⟩ := record_read_back id { length := 0, type := .path } hbody 3
  refine ⟨hbody, htext.trans ?_, hid, hsaid⟩
  decide

end Message

end LinuxAudit
