import Mathlib
import LinuxAudit.Proofs.Bytes
import LinuxAudit.Proofs.Rule.Reading

/-! The wire format of rules, stated on bytes. Reading and writing are inverse up to what the format
leaves open: `decode_exact` says which byte strings are rules, which bytes of them count, and how a
rule that is cut short is refused. -/

namespace LinuxAudit.Rule

/-! ### Where the words of a rule stand -/

/-- The word at a place of a byte string. Places are counted in words. -/
def wordAt (data : Bytes) (place : Nat) : UInt32 :=
  (Bytes.words data).getD place 0

def countAt : Nat := 2

def fieldsAt : Nat := 3 + bitmapWords

def valuesAt : Nat := fieldsAt + maxFields

def operatorsAt : Nat := valuesAt + maxFields

def trailerLengthAt : Nat := operatorsAt + maxFields

/-- The number of predicates that a byte string declares. -/
def declaredCount (data : Bytes) : Nat :=
  (wordAt data countAt).toNat

/-- The length of the trailer that a byte string declares. -/
def declaredTrailer (data : Bytes) : Nat :=
  (wordAt data trailerLengthAt).toNat

/-- The entries of an array up to the declared count. -/
def entries (data : Bytes) (array : Nat) : List UInt32 :=
  ((Bytes.words data).drop array).take (declaredCount data)

/-- The length of all texts, by the codes of the fields and the values. -/
def claimedText : List UInt32 → List UInt32 → Nat
  | field :: fields, value :: values =>
      (if (Field.ofCode? field).any Field.isString then value.toNat else 0)
        + claimedText fields values
  | _, _ => 0

/-- What a byte string must meet to be read as a rule. -/
structure Readable (data : Bytes) : Prop where
  header : ruleHeaderSize ≤ data.length
  list : (FilterList.ofCode? (wordAt data 0)).isSome
  action : (Action.ofCode? (wordAt data 1)).isSome
  count : declaredCount data ≤ maxFields
  trailer : ruleHeaderSize + declaredTrailer data ≤ data.length
  fields : ∀ code ∈ entries data fieldsAt, (Field.ofCode? code).isSome
  operators : ∀ code ∈ entries data operatorsAt, (Operator.ofCode? code).isSome
  texts : claimedText (entries data fieldsAt) (entries data valuesAt) = declaredTrailer data

/-- Clears the bytes from one place on to before another. -/
def cleared (start stop : Nat) (data : Bytes) : Bytes :=
  data.take start ++ List.replicate (stop - start) 0 ++ data.drop stop

/-- Clears the entries of an array behind the last predicate. -/
def clearUnused (count array : Nat) (data : Bytes) : Bytes :=
  cleared (4 * (array + count)) (4 * (array + maxFields)) data

/-- The bytes that count: those up to the end of the trailer, with the unused entries of the three
arrays cleared. -/
def significant (data : Bytes) : Bytes :=
  let count := declaredCount data
  clearUnused count fieldsAt (clearUnused count valuesAt (clearUnused count operatorsAt
    (data.take (ruleHeaderSize + declaredTrailer data))))

namespace Layout

variable (l : Layout) (rest : Bytes)

theorem words_data : Bytes.words (l.data rest) =
    [l.list, l.action, l.count] ++ (l.bitmap ++ (l.fields ++ (l.values ++ (l.operators ++
      ([l.trailerLength] ++ Bytes.words rest))))) := by
  rw [data, Bytes.words_ofWords_append, words]
  simp only [List.append_assoc]

theorem drop_words_fieldsAt : (Bytes.words (l.data rest)).drop fieldsAt =
    l.fields ++ (l.values ++ (l.operators ++ ([l.trailerLength] ++ Bytes.words rest))) := by
  rw [words_data, fieldsAt, ← List.drop_drop]
  exact l.drop_bitmap _

theorem drop_words_valuesAt : (Bytes.words (l.data rest)).drop valuesAt =
    l.values ++ (l.operators ++ ([l.trailerLength] ++ Bytes.words rest)) := by
  rw [valuesAt, ← List.drop_drop, drop_words_fieldsAt, drop_fields]

theorem drop_words_operatorsAt : (Bytes.words (l.data rest)).drop operatorsAt =
    l.operators ++ ([l.trailerLength] ++ Bytes.words rest) := by
  rw [operatorsAt, ← List.drop_drop, drop_words_valuesAt, drop_values]

theorem wordAt_list : wordAt (l.data rest) 0 = l.list := by
  rw [wordAt, words_data]
  rfl

theorem wordAt_action : wordAt (l.data rest) 1 = l.action := by
  rw [wordAt, words_data]
  rfl

@[simp] theorem declaredCount_data : declaredCount (l.data rest) = l.count.toNat := by
  rw [declaredCount, wordAt, words_data]
  rfl

@[simp] theorem declaredTrailer_data :
    declaredTrailer (l.data rest) = l.trailerLength.toNat := by
  have hdrop : (Bytes.words (l.data rest)).drop trailerLengthAt =
      l.trailerLength :: Bytes.words rest := by
    rw [trailerLengthAt, ← List.drop_drop, drop_words_operatorsAt, drop_operators]
    rfl
  have hget := congrArg List.head? hdrop
  rw [List.head?_drop, List.head?_cons] at hget
  rw [declaredTrailer, wordAt, List.getD_eq_getElem?_getD, hget, Option.getD_some]

theorem take_append_of_le {ws more : List UInt32} {n : Nat} (hws : ws.length = maxFields)
    (hn : n ≤ maxFields) : (ws ++ more).take n = ws.take n :=
  List.take_append_of_le_length (hn.trans_eq hws.symm)

variable (hcount : l.count.toNat ≤ maxFields)

include hcount in
theorem entries_fieldsAt : entries (l.data rest) fieldsAt = l.fields.take l.count.toNat := by
  rw [entries, declaredCount_data, drop_words_fieldsAt, take_append_of_le l.fields_length hcount]

include hcount in
theorem entries_valuesAt : entries (l.data rest) valuesAt = l.values.take l.count.toNat := by
  rw [entries, declaredCount_data, drop_words_valuesAt, take_append_of_le l.values_length hcount]

include hcount in
theorem entries_operatorsAt :
    entries (l.data rest) operatorsAt = l.operators.take l.count.toNat := by
  rw [entries, declaredCount_data, drop_words_operatorsAt,
    take_append_of_le l.operators_length hcount]

end Layout

/-! ### Readable byte strings -/

theorem claimedText_map (ps : List Predicate) :
    claimedText (ps.map (·.field.code)) (ps.map (·.value)) = Predicate.textLength ps := by
  induction ps with
  | nil => rfl
  | cons p ps ih =>
      simp only [List.map_cons, claimedText, Predicate.textLength, ih, Field.ofCode?_code,
        Option.any_some]

/-- Known codes are the codes of predicates. -/
theorem exists_predicates {fields values operators : List UInt32}
    (hvalues : values.length = fields.length) (hoperators : operators.length = fields.length)
    (hf : ∀ code ∈ fields, (Field.ofCode? code).isSome)
    (ho : ∀ code ∈ operators, (Operator.ofCode? code).isSome) :
    ∃ ps : List Predicate, fields = ps.map (·.field.code) ∧ values = ps.map (·.value) ∧
      operators = ps.map (·.operator.code) := by
  induction fields generalizing values operators with
  | nil =>
      rw [List.length_nil, List.length_eq_zero_iff] at hvalues hoperators
      exact ⟨[], rfl, hvalues, hoperators⟩
  | cons f fields ih =>
      match values, operators, hvalues, hoperators with
      | v :: values, o :: operators, hvalues, hoperators =>
          obtain ⟨field, hfield⟩ := Option.isSome_iff_exists.1 (hf f List.mem_cons_self)
          obtain ⟨op, hop⟩ := Option.isSome_iff_exists.1 (ho o List.mem_cons_self)
          obtain ⟨ps, h1, h2, h3⟩ := ih (Nat.succ.inj hvalues) (Nat.succ.inj hoperators)
            (fun code h => hf code (List.mem_cons_of_mem f h))
            (fun code h => ho code (List.mem_cons_of_mem o h))
          refine ⟨⟨field, op, v⟩ :: ps, ?_, ?_, ?_⟩
          · rw [List.map_cons, ← h1, Field.code_of_ofCode? hfield]
          · rw [List.map_cons, ← h2]
          · rw [List.map_cons, ← h3, Operator.code_of_ofCode? hop]

theorem exists_decode_of_readable {data : Bytes} (h : Readable data) :
    ∃ rule, decode data = .ok rule := by
  obtain ⟨l, rest, rfl⟩ := Layout.exists_data_eq data h.header
  have hcount : l.count.toNat ≤ maxFields := by
    rw [← l.declaredCount_data rest]
    exact h.count
  obtain ⟨list, hlist⟩ := Option.isSome_iff_exists.1 (l.wordAt_list rest ▸ h.list)
  obtain ⟨action, haction⟩ := Option.isSome_iff_exists.1 (l.wordAt_action rest ▸ h.action)
  have hlen {ws : List UInt32} (hws : ws.length = maxFields) :
      (ws.take l.count.toNat).length = l.count.toNat := by
    rw [List.length_take, hws, Nat.min_eq_left hcount]
  obtain ⟨ps, hf, hv, ho⟩ := exists_predicates
    ((hlen l.values_length).trans (hlen l.fields_length).symm)
    ((hlen l.operators_length).trans (hlen l.fields_length).symm)
    (l.entries_fieldsAt rest hcount ▸ h.fields) (l.entries_operatorsAt rest hcount ▸ h.operators)
  have hps : ps.length = l.count.toNat := by
    rw [← hlen l.fields_length, hf, List.length_map]
  have htexts : Predicate.textLength ps = l.trailerLength.toNat := by
    have htexts := h.texts
    rwa [l.entries_fieldsAt rest hcount, l.entries_valuesAt rest hcount, hf, hv, claimedText_map,
      l.declaredTrailer_data] at htexts
  have htrailer : (rest.take l.trailerLength.toNat).length = l.trailerLength.toNat := by
    have htrailer := h.trailer
    rw [l.declaredTrailer_data, l.length_data] at htrailer
    rw [List.length_take]
    omega
  refine ⟨⟨list, action, .ofWords l.bitmap, ps, rest.take l.trailerLength.toNat⟩, ?_⟩
  refine decode_data_eq_ok_iff.2 ⟨⟨hps.trans_le hcount, htexts.trans htrailer.symm, ?_⟩,
    ⟨(FilterList.code_of_ofCode? hlist).symm, (Action.code_of_ofCode? haction).symm, hps.symm,
      (SyscallSet.words_ofWords l.bitmap_length).symm, hps ▸ hf, hps ▸ hv, hps ▸ ho,
      htrailer.symm⟩, rest.drop l.trailerLength.toNat, (List.take_append_drop _ _).symm⟩
  rw [htrailer]
  exact l.trailerLength.toNat_lt_size

theorem readable_of_decode {data : Bytes} {rule : Rule} (h : decode data = .ok rule) :
    Readable data := by
  have hheader : ruleHeaderSize ≤ data.length := by
    by_contra hshort
    rw [decode] at h
    simp only [if_pos (Nat.lt_of_not_le hshort), except_throw_bind] at h
    cases h
  obtain ⟨l, rest, rfl⟩ := Layout.exists_data_eq data hheader
  obtain ⟨hwell, hl, junk, rfl⟩ := decode_data_eq_ok_iff.1 h
  have hcount : l.count.toNat ≤ maxFields := hl.count.trans_le hwell.fields
  have hfields := l.entries_fieldsAt (rule.trailer ++ junk) hcount
  have hvalues := l.entries_valuesAt (rule.trailer ++ junk) hcount
  have hoperators := l.entries_operatorsAt (rule.trailer ++ junk) hcount
  rw [hl.count, hl.fields] at hfields
  rw [hl.count, hl.values] at hvalues
  rw [hl.count, hl.operators] at hoperators
  refine ⟨hheader, ?_, ?_, ?_, ?_, ?_, ?_, ?_⟩
  · rw [l.wordAt_list, hl.list, FilterList.ofCode?_code]
    rfl
  · rw [l.wordAt_action, hl.action, Action.ofCode?_code]
    rfl
  · rw [l.declaredCount_data]
    exact hcount
  · rw [l.declaredTrailer_data, hl.trailerLength, l.length_data, List.length_append]
    omega
  · intro code hcode
    rw [hfields] at hcode
    obtain ⟨p, -, rfl⟩ := List.mem_map.1 hcode
    rw [Field.ofCode?_code]
    rfl
  · intro code hcode
    rw [hoperators] at hcode
    obtain ⟨p, -, rfl⟩ := List.mem_map.1 hcode
    rw [Operator.ofCode?_code]
    rfl
  · rw [hfields, hvalues, claimedText_map, l.declaredTrailer_data, hl.trailerLength]
    exact hwell.texts

/-! ### What counts of a byte string -/

theorem cleared_ofWords (before middle behind : List UInt32) (rest : Bytes) {start stop : Nat}
    (hstart : start = before.length) (hstop : stop = before.length + middle.length) :
    cleared (4 * start) (4 * stop) (Bytes.ofWords (before ++ (middle ++ behind)) ++ rest) =
      Bytes.ofWords (before ++ (List.replicate middle.length 0 ++ behind)) ++ rest := by
  have hbefore : (Bytes.ofWords before).length = 4 * start := by
    rw [Bytes.ofWords_length, hstart]
  have hmiddle : (Bytes.ofWords before ++ Bytes.ofWords middle).length = 4 * stop := by
    rw [List.length_append, Bytes.ofWords_length, Bytes.ofWords_length, hstop, Nat.mul_add]
  have hzeros : List.replicate (4 * stop - 4 * start) 0 =
      Bytes.ofWords (List.replicate middle.length 0) := by
    rw [show 4 * stop - 4 * start = 4 * middle.length by omega, Bytes.ofWords_replicate_zero]
  simp only [Bytes.ofWords_append, List.append_assoc, cleared]
  rw [List.take_left' hbefore, hzeros, ← List.append_assoc,
    ← List.append_assoc (Bytes.ofWords before), List.drop_left' hmiddle]
  simp only [List.append_assoc]

/-- Clearing the unused entries of an array leaves it as it is written. -/
theorem clearUnused_ofWords {before array : List UInt32} (behind : List UInt32) (rest : Bytes)
    {place n : Nat} (hplace : before.length = place) (harray : array.length = maxFields)
    (hn : n ≤ maxFields) :
    clearUnused n place (Bytes.ofWords (before ++ (array ++ behind)) ++ rest) =
      Bytes.ofWords (before ++ (padded (array.take n) ++ behind)) ++ rest := by
  have hused : (array.take n).length = n := by
    rw [List.length_take, harray, Nat.min_eq_left hn]
  have hunused : (array.drop n).length = maxFields - n := by
    rw [List.length_drop, harray]
  have hstart : place + n = (before ++ array.take n).length := by
    rw [List.length_append, hplace, hused]
  have hstop : place + maxFields = (before ++ array.take n).length + (array.drop n).length := by
    rw [← hstart, hunused]
    omega
  have h := cleared_ofWords (before ++ array.take n) (array.drop n) behind rest hstart hstop
  rw [clearUnused, padded, hused]
  rwa [hunused, List.append_assoc, ← List.append_assoc (array.take n), List.take_append_drop,
    List.append_assoc, ← List.append_assoc (array.take n)] at h

/-- The bytes that count of an image of a rule are the rule as it is written. -/
theorem significant_data {l : Layout} {rule : Rule} (hwell : rule.WellFormed) (hl : l.Holds rule)
    (junk : Bytes) : significant (l.data (rule.trailer ++ junk)) = rule.encode := by
  have htake : (l.data (rule.trailer ++ junk)).take (ruleHeaderSize + rule.trailer.length) =
      l.data rule.trailer := by
    rw [Layout.data, ← List.append_assoc]
    apply List.take_left'
    rw [← Layout.data, Layout.length_data]
  have hcount := hwell.fields
  let start := [l.list, l.action, l.count] ++ l.bitmap
  have hfieldsAt : start.length = fieldsAt := by
    rw [List.length_append, l.bitmap_length]
    rfl
  have hvaluesAt : (start ++ l.fields).length = valuesAt := by
    rw [List.length_append, hfieldsAt, l.fields_length]
    rfl
  have hoperatorsAt : (start ++ l.fields ++ l.values).length = operatorsAt := by
    rw [List.length_append, hvaluesAt, l.values_length]
    rfl
  have hoperators := clearUnused_ofWords [l.trailerLength] rule.trailer hoperatorsAt
    l.operators_length hcount
  have hvalues := clearUnused_ofWords (padded (l.operators.take rule.predicates.length) ++
    [l.trailerLength]) rule.trailer hvaluesAt l.values_length hcount
  have hfields := clearUnused_ofWords (padded (l.values.take rule.predicates.length) ++
    (padded (l.operators.take rule.predicates.length) ++ [l.trailerLength])) rule.trailer hfieldsAt
    l.fields_length hcount
  simp only [← List.append_assoc] at hoperators hvalues hfields
  rw [significant, l.declaredTrailer_data, hl.trailerLength, htake, l.declaredCount_data, hl.count,
    Layout.data, Layout.words, hoperators, hvalues, hfields, hl.fields, hl.values, hl.operators]
  have hcode : l.count = UInt32.ofNat rule.predicates.length := by
    rw [← hl.count, UInt32.ofNat_toNat]
  have hlength : l.trailerLength = UInt32.ofNat rule.trailer.length := by
    rw [← hl.trailerLength, UInt32.ofNat_toNat]
  rw [encode, headerWords, ← hl.list, ← hl.action, ← hl.bitmap, ← hcode, ← hlength]

/-! ### Reading and writing -/

theorem encode_injective {rule other : Rule} (hrule : rule.WellFormed) (hother : other.WellFormed)
    (h : rule.encode = other.encode) : rule = other := by
  have hread := decode_encode_append hrule []
  rw [h, decode_encode_append hother] at hread
  exact (Except.ok.inj hread).symm

/-- A byte string is read as the one rule that it is the image of, up to the bytes that do not
count. -/
theorem decode_eq_ok_iff {data : Bytes} {rule : Rule} :
    decode data = .ok rule ↔
      Readable data ∧ rule.WellFormed ∧ rule.encode = significant data := by
  have hsound {rule : Rule} (h : decode data = .ok rule) :
      rule.WellFormed ∧ rule.encode = significant data := by
    obtain ⟨l, rest, rfl⟩ := Layout.exists_data_eq data (readable_of_decode h).header
    obtain ⟨hwell, hl, junk, rfl⟩ := decode_data_eq_ok_iff.1 h
    exact ⟨hwell, (significant_data hwell hl junk).symm⟩
  constructor
  · intro h
    exact ⟨readable_of_decode h, hsound h⟩
  · rintro ⟨hreadable, hwell, hencode⟩
    obtain ⟨other, hother⟩ := exists_decode_of_readable hreadable
    obtain ⟨hwell', hencode'⟩ := hsound hother
    rw [hother, encode_injective hwell' hwell (hencode'.trans hencode.symm)]

/-- Whatever is not readable is refused. -/
theorem exists_decode_eq_error_iff {data : Bytes} :
    (∃ e, decode data = .error e) ↔ ¬Readable data := by
  constructor
  · rintro ⟨e, he⟩ hreadable
    obtain ⟨rule, hrule⟩ := exists_decode_of_readable hreadable
    rw [he] at hrule
    cases hrule
  · intro h
    cases hdecode : decode data with
    | error e => exact ⟨e, rfl⟩
    | ok rule => exact absurd (readable_of_decode hdecode) h

/-- Reading and writing are inverse on the whole format. A well-formed rule is read back whatever
follows it; a byte string is read exactly if it is readable, and then as the well-formed rule whose
image are the bytes that count; and a rule cut short is refused for its length. -/
theorem decode_exact :
    (∀ rule : Rule, rule.WellFormed → ∀ junk, decode (rule.encode ++ junk) = .ok rule) ∧
    (∀ data,
      (∀ rule : Rule, decode data = .ok rule ↔
        Readable data ∧ rule.WellFormed ∧ rule.encode = significant data) ∧
      ((∃ e, decode data = .error e) ↔ ¬Readable data)) ∧
    (∀ rule : Rule, rule.WellFormed → ∀ n < rule.encode.length,
      ∃ expected, n < expected ∧ decode (rule.encode.take n) = .error (.truncated expected n)) := by
  refine ⟨?_, ?_, ?_⟩
  · intro rule hrule junk
    exact decode_encode_append hrule junk
  · intro data
    exact ⟨fun rule => decode_eq_ok_iff, exists_decode_eq_error_iff⟩
  · intro rule hrule n hn
    exact decode_take_encode hrule hn

/-- A rule that watches a directory under a key. -/
def watchTree : Rule where
  list := .exit
  action := .always
  syscalls := .all
  predicates := [⟨.tree, .equal, 4⟩, ⟨.key, .equal, 1⟩]
  trailer := [0x2F, 0x65, 0x74, 0x63, 0x6B]

theorem decode_exact_watchTree :
    decode (watchTree.encode ++ [0xFF]) = .ok watchTree ∧ Readable watchTree.encode ∧
      ∃ expected, 1044 < expected ∧
        decode (watchTree.encode.take 1044) = .error (.truncated expected 1044) := by
  have hwell : watchTree.WellFormed := ⟨by decide, by decide, by decide⟩
  have hlength : watchTree.encode.length = 1045 := length_encode hwell.fields
  obtain ⟨hread, hexact, hcut⟩ := decode_exact
  refine ⟨hread watchTree hwell [0xFF], ?_, hcut watchTree hwell 1044 ?_⟩
  · have h := hread watchTree hwell []
    rw [List.append_nil] at h
    exact (((hexact watchTree.encode).1 watchTree).1 h).1
  · rw [hlength]
    decide

end LinuxAudit.Rule
