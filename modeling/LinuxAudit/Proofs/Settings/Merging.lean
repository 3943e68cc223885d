import Mathlib
import LinuxAudit.CommandLine

/-! The settings of a rule in a section and on the command line. A list of a section is read item by
item, whatever blanks and empty items stand between: `items_of_spells`. `ofSection_of_writtenIn` says
what a section is read as, and `mergeInto_writtenIn` that a section merged with a command line is
read as the section that holds both. -/

namespace LinuxAudit

/-! ### Items of a list -/

namespace Text

theorem fields_eq_splitOn (separator : Char) (text : List Char) :
    fields separator text = text.splitOn separator := by
  induction text with
  | nil => rfl
  | cons c rest ih =>
      rw [fields, ih, List.splitOn, List.splitOn, List.splitOnP_cons_eq_if_modifyHead]
      cases hsplit : rest.splitOnP (· == separator) with
      | nil => exact absurd hsplit (List.splitOnP_ne_nil _ rest)
      | cons first others => rfl

theorem dropWhile_blanks {blanks rest : List Char} (hblanks : ∀ c ∈ blanks, isBlank c)
    (hrest : rest.head?.any isBlank = false) : (blanks ++ rest).dropWhile isBlank = rest := by
  rw [List.dropWhile_append_of_pos hblanks]
  cases rest with
  | nil => rfl
  | cons c rest => exact List.dropWhile_cons_of_neg (Bool.eq_false_iff.1 hrest)

theorem trimmed_blanks {blanks : List Char} (hblanks : ∀ c ∈ blanks, isBlank c) :
    trimmed blanks = [] := by
  rw [trimmed, List.dropWhile_eq_nil_iff.2 hblanks]
  rfl

/-- Blanks around a text that neither begins nor ends with one are trimmed off. -/
theorem trimmed_append {before text behind : List Char} (hbefore : ∀ c ∈ before, isBlank c)
    (hbehind : ∀ c ∈ behind, isBlank c) (htext : text ≠ [])
    (hstart : text.head?.any isBlank = false) (hending : text.getLast?.any isBlank = false) :
    trimmed (before ++ text ++ behind) = text := by
  have hfront : (before ++ text ++ behind).dropWhile isBlank = text ++ behind := by
    rw [List.append_assoc]
    apply dropWhile_blanks hbefore
    rwa [List.head?_append_of_ne_nil _ htext]
  have hback : (behind.reverse ++ text.reverse).dropWhile isBlank = text.reverse := by
    apply dropWhile_blanks
    · simpa using hbehind
    · rwa [List.head?_reverse]
  rw [trimmed, hfront, List.reverse_append, hback, List.reverse_reverse]

end Text

namespace Section

/-- What can stand as an item of a list: it has no comma, and no blank at either end. -/
structure IsItem (item : String) : Prop where
  nonempty : item.toList ≠ []
  comma : ',' ∉ item.toList
  start : item.toList.head?.any Text.isBlank = false
  ending : item.toList.getLast?.any Text.isBlank = false

instance (item : String) : Decidable (IsItem item) :=
  decidable_of_iff (item.toList ≠ [] ∧ ',' ∉ item.toList ∧
      item.toList.head?.any Text.isBlank = false ∧ item.toList.getLast?.any Text.isBlank = false)
    ⟨fun ⟨hne, hcomma, hstart, hending⟩ => ⟨hne, hcomma, hstart, hending⟩,
      fun h => ⟨h.nonempty, h.comma, h.start, h.ending⟩⟩

/-- The stretches between the commas of a list hold items with blanks around them, or blanks only. -/
inductive Spelled : List (List Char) → List String → Prop
  | nil : Spelled [] []
  | gap {blanks : List Char} {stretches : List (List Char)} {items : List String}
      (hblanks : ∀ c ∈ blanks, Text.isBlank c) (hrest : Spelled stretches items) :
      Spelled (blanks :: stretches) items
  | item {before behind : List Char} {item : String} {stretches : List (List Char)}
      {items : List String} (hbefore : ∀ c ∈ before, Text.isBlank c)
      (hbehind : ∀ c ∈ behind, Text.isBlank c) (hrest : Spelled stretches items) :
      Spelled ((before ++ item.toList ++ behind) :: stretches) (item :: items)

/-- A text spells items as a list. -/
def Spells (text : String) (items : List String) : Prop :=
  ∃ stretches, stretches ≠ [] ∧ Spelled stretches items ∧
    text.toList = [','].intercalate stretches

theorem not_comma_of_isBlank {c : Char} (hblank : Text.isBlank c) : c ≠ ',' := by
  rintro rfl
  exact absurd hblank (by decide)

theorem Spelled.not_mem {stretches : List (List Char)} {items : List String}
    (h : Spelled stretches items) (hitems : ∀ item ∈ items, IsItem item) :
    ∀ stretch ∈ stretches, ',' ∉ stretch := by
  induction h with
  | nil => exact fun stretch hmem => absurd hmem List.not_mem_nil
  | gap hblanks hrest ih =>
      refine List.forall_mem_cons.2 ⟨fun hcomma => ?_, ih hitems⟩
      exact not_comma_of_isBlank (hblanks _ hcomma) rfl
  | item hbefore hbehind hrest ih =>
      obtain ⟨hitem, hitems⟩ := List.forall_mem_cons.1 hitems
      refine List.forall_mem_cons.2 ⟨fun hcomma => ?_, ih hitems⟩
      rcases List.mem_append.1 hcomma with hcomma | hcomma
      · rcases List.mem_append.1 hcomma with hcomma | hcomma
        · exact not_comma_of_isBlank (hbefore _ hcomma) rfl
        · exact hitem.comma hcomma
      · exact not_comma_of_isBlank (hbehind _ hcomma) rfl

theorem Spelled.trimmed {stretches : List (List Char)} {items : List String}
    (h : Spelled stretches items) (hitems : ∀ item ∈ items, IsItem item) :
    ((stretches.map Text.trimmed).filter (!·.isEmpty)).map String.ofList = items := by
  induction h with
  | nil => rfl
  | gap hblanks hrest ih =>
      rw [List.map_cons, Text.trimmed_blanks hblanks, List.filter_cons_of_neg (by simp)]
      exact ih hitems
  | item hbefore hbehind hrest ih =>
      obtain ⟨hitem, hitems⟩ := List.forall_mem_cons.1 hitems
      have htrimmed := Text.trimmed_append hbefore hbehind hitem.nonempty hitem.start hitem.ending
      rw [List.map_cons, htrimmed, List.filter_cons_of_pos (by simpa using hitem.nonempty),
        List.map_cons, String.ofList_toList, ih hitems]

/-- However a list is spelled, its items are read. -/
theorem items_of_spells {text : String} {items : List String} (h : Spells text items)
    (hitems : ∀ item ∈ items, IsItem item) : Section.items text = items := by
  obtain ⟨stretches, hne, hspelled, htext⟩ := h
  rw [Section.items, htext, Text.fields_eq_splitOn,
    List.splitOn_intercalate ',' (hspelled.not_mem hitems) hne]
  exact hspelled.trimmed hitems

/-! ### Values of a section -/

variable {α : Type} {s : Section} {key : String}

/-- A section has a list under a key, or it has no such key and the list is empty. -/
def Holds (s : Section) (key : String) (items : List String) : Prop :=
  match s.get? key with
  | some text => Spells text items
  | none => items = []

theorem list_of_holds {items : List String} {reader : ValueReader α} {f : String → α}
    (h : s.Holds key items) (hitems : ∀ item ∈ items, IsItem item)
    (hreader : ∀ text, reader text = .ok (f text)) : s.list reader key = .ok (items.map f) := by
  rw [Holds] at h
  rw [list]
  cases hget : s.get? key with
  | none =>
      rw [hget] at h
      rw [show items = [] from h]
      rfl
  | some text =>
      have hread : Section.read reader key = fun value => pure (f value) := by
        funext value
        rw [Section.read, hreader]
        rfl
      rw [hget] at h
      show (Section.items text).mapM (Section.read reader key) = _
      rw [items_of_spells h hitems, hread, List.mapM_pure]
      rfl

theorem list_string_of_holds {items : List String} (h : s.Holds key items)
    (hitems : ∀ item ∈ items, IsItem item) : s.list .string key = .ok items := by
  have hread : s.list .string key = .ok (items.map fun text => text) :=
    list_of_holds h hitems fun _ => rfl
  rwa [List.map_id'] at hread

/-- A value that its reader accepts is read, and none where there is none. -/
theorem optional_eq_ok {value? : Option String} {reader : ValueReader α}
    (read? : String → Option α) (hget : s.get? key = value?)
    (hreader : ∀ value ∈ value?, ∃ a, read? value = some a ∧ reader value = .ok a) :
    s.optional reader key = .ok (value?.bind read?) := by
  rw [optional, hget]
  cases value? with
  | none => rfl
  | some value =>
      obtain ⟨a, hread, ha⟩ := hreader value rfl
      simp only [Section.read, ha, Option.bind_some, hread]
      rfl

theorem withDefault_named {name : α → String} {ofName? : String → Option α} {value? : Option α}
    (hname : ∀ a, ofName? (name a) = some a) (hget : s.get? key = value?.map name)
    (default : α) :
    s.withDefault (ValueReader.named ofName?) key default = .ok (value?.getD default) := by
  rw [withDefault, optional_eq_ok ofName? hget]
  · cases value? with
    | none => rfl
    | some a =>
        rw [Option.map_some, Option.bind_some, hname]
        rfl
  · intro value hvalue
    obtain ⟨a, -, rfl⟩ := Option.mem_map.1 hvalue
    refine ⟨a, hname a, ?_⟩
    rw [ValueReader.named, hname]

end Section

/-! ### Wordings -/

namespace RuleSettings

/-- The settings of a rule as a user gives them. What is a single value may be left out. -/
structure Wording where
  syscalls : List String := []
  trees : List String := []
  files : List String := []
  expressions : List String := []
  list : Option FilterList := none
  action : Option Action := none
  access : Option String := none
  key : Option String := none

namespace Wording

/-- Lists are made of items, and kinds of access of their letters. -/
structure Valid (w : Wording) : Prop where
  syscalls : ∀ item ∈ w.syscalls, Section.IsItem item
  trees : ∀ item ∈ w.trees, Section.IsItem item
  files : ∀ item ∈ w.files, Section.IsItem item
  expressions : ∀ item ∈ w.expressions, Section.IsItem item
  access : ∀ letters ∈ w.access, (Access.parse? letters).isSome

/-- A section holds the wording, each list in any spelling. -/
structure WrittenIn (w : Wording) (s : Section) : Prop where
  syscalls : s.Holds "syscalls" w.syscalls
  trees : s.Holds "watch" w.trees
  files : s.Holds "watch_files" w.files
  expressions : s.Holds "fields" w.expressions
  list : s.get? "filter_list" = w.list.map FilterList.name
  action : s.get? "action" = w.action.map Action.name
  access : s.get? "perm" = w.access
  key : s.get? "key" = w.key

/-- A command line gives the wording, with the kinds of access as bits. -/
structure GivenBy (w : Wording) (o : CommandLine.Options) : Prop where
  syscalls : o.syscalls = w.syscalls
  trees : o.trees = w.trees.map Utf8.encode
  files : o.files = w.files.map Utf8.encode
  expressions : o.expressions = w.expressions
  list : o.list = w.list
  action : o.action = w.action
  access : o.access = w.access.bind Access.parse?
  key : o.key = w.key

/-- Two wordings as one: lists one behind the other, and of two single values the second. -/
def followedBy (w v : Wording) : Wording where
  syscalls := w.syscalls ++ v.syscalls
  trees := w.trees ++ v.trees
  files := w.files ++ v.files
  expressions := w.expressions ++ v.expressions
  list := v.list.or w.list
  action := v.action.or w.action
  access := v.access.or w.access
  key := v.key.or w.key

/-- The settings that a wording stands for. -/
def settings (w : Wording) : RuleSettings where
  list := w.list.getD .exit
  action := w.action.getD .always
  syscalls := w.syscalls
  trees := w.trees.map Utf8.encode
  files := w.files.map Utf8.encode
  expressions := w.expressions
  access := w.access.bind Access.parse?
  key := w.key

variable {w v : Wording} {s : Section} {o : CommandLine.Options}

theorem Valid.followedBy (hw : w.Valid) (hv : v.Valid) : (w.followedBy v).Valid where
  syscalls := List.forall_mem_append.2 ⟨hw.syscalls, hv.syscalls⟩
  trees := List.forall_mem_append.2 ⟨hw.trees, hv.trees⟩
  files := List.forall_mem_append.2 ⟨hw.files, hv.files⟩
  expressions := List.forall_mem_append.2 ⟨hw.expressions, hv.expressions⟩
  access letters hletters := by
    rcases Option.or_eq_some_iff.1 hletters with hsecond | ⟨-, hfirst⟩
    · exact hv.access letters hsecond
    · exact hw.access letters hfirst

/-- A command line replaces and adds what a wording that follows another one does. -/
theorem GivenBy.mergeInto (h : v.GivenBy o) (hv : v.Valid) (w : Wording) :
    o.mergeInto w.settings = (w.followedBy v).settings := by
  have haccess : (v.access.bind Access.parse?).or (w.access.bind Access.parse?) =
      (v.access.or w.access).bind Access.parse? := by
    cases hletters : v.access with
    | none => rfl
    | some letters =>
        obtain ⟨bits, hbits⟩ := Option.isSome_iff_exists.1 (hv.access letters hletters)
        simp [hbits]
  simp only [CommandLine.Options.mergeInto, settings, Wording.followedBy, h.syscalls, h.trees,
    h.files, h.expressions, h.list, h.action, h.access, h.key, haccess, List.map_append]
  cases v.list <;> cases v.action <;> rfl

end Wording

/-- A section is read as what its wording stands for. -/
theorem ofSection_of_writtenIn {w : Wording} {s : Section} (hw : w.Valid) (h : w.WrittenIn s) :
    ofSection s = .ok w.settings := by
  have haccess : s.optional accessReader "perm" = .ok (w.access.bind Access.parse?) := by
    apply Section.optional_eq_ok Access.parse? h.access
    intro letters hletters
    obtain ⟨bits, hbits⟩ := Option.isSome_iff_exists.1 (hw.access letters hletters)
    refine ⟨bits, hbits, ?_⟩
    rw [accessReader, hbits]
  have hlist : s.withDefault .filterList "filter_list" .exit = .ok (w.list.getD .exit) :=
    Section.withDefault_named FilterList.ofName?_name h.list .exit
  have haction : s.withDefault .action "action" .always = .ok (w.action.getD .always) :=
    Section.withDefault_named Action.ofName?_name h.action .always
  have hkey : s.optional .string "key" = .ok (w.key.bind some) :=
    Section.optional_eq_ok some h.key fun value _ => ⟨value, rfl, rfl⟩
  rw [Option.bind_fun_some] at hkey
  have hsyscalls := Section.list_string_of_holds h.syscalls hw.syscalls
  have hexpressions := Section.list_string_of_holds h.expressions hw.expressions
  have htrees : s.list pathReader "watch" = .ok (w.trees.map Utf8.encode) :=
    Section.list_of_holds h.trees hw.trees fun _ => rfl
  have hfiles : s.list pathReader "watch_files" = .ok (w.files.map Utf8.encode) :=
    Section.list_of_holds h.files hw.files fun _ => rfl
  rw [ofSection, haccess, hlist, haction, hsyscalls, htrees, hfiles, hexpressions, hkey]
  rfl

/-- A section merged with a command line is read as the section that holds both: the items of the
command line behind its own, and the single values of the command line where they are given. -/
theorem mergeInto_writtenIn {w v : Wording} (hw : w.Valid) (hv : v.Valid) {s joint : Section}
    {o : CommandLine.Options} (hs : w.WrittenIn s) (ho : v.GivenBy o)
    (hjoint : (w.followedBy v).WrittenIn joint) :
    ∃ settings, ofSection s = .ok settings ∧
      ofSection joint = .ok (o.mergeInto settings) := by
  refine ⟨w.settings, ofSection_of_writtenIn hw hs, ?_⟩
  rw [ho.mergeInto hv w]
  exact ofSection_of_writtenIn (hw.followedBy hv) hjoint

/-- Two syscalls and a key. -/
def filed : Wording where
  syscalls := ["mkdir", "rmdir"]
  access := some "wa"
  key := some "file"

/-- A syscall, a filter list, and another key. -/
def given : Wording where
  syscalls := ["open"]
  list := some .task
  key := some "cli"

/-- The list of syscalls has blanks around its first item and an empty item behind it. -/
def filedSection : Section :=
  .ofPairs [("syscalls", " mkdir ,, rmdir"), ("perm", "wa"), ("key", "file")]

def jointSection : Section :=
  .ofPairs [("syscalls", "mkdir,rmdir,open"), ("perm", "wa"), ("key", "cli"),
    ("filter_list", "task")]

def givenOptions : CommandLine.Options where
  syscalls := ["open"]
  list := some .task
  key := some "cli"

theorem mergeInto_writtenIn_filed :
    filed.Valid ∧ given.Valid ∧ filed.WrittenIn filedSection ∧ given.GivenBy givenOptions ∧
    (filed.followedBy given).WrittenIn jointSection ∧
    ∃ settings, ofSection filedSection = .ok settings ∧
      ofSection jointSection = .ok (givenOptions.mergeInto settings) := by
  have hfiled : filed.Valid := by constructor <;> decide +kernel
  have hgiven : given.Valid := by constructor <;> decide +kernel
  have hspace : ∀ c ∈ [' '], Text.isBlank c := List.forall_mem_singleton.2 (by decide)
  have hnone : ∀ c ∈ ([] : List Char), Text.isBlank c := List.forall_mem_nil _
  have hsyscalls : Section.Spells " mkdir ,, rmdir" filed.syscalls :=
    ⟨_, List.cons_ne_nil _ _, .item hspace hspace (.gap hnone (.item hspace hnone .nil)),
      by decide +kernel⟩
  have hjoined : Section.Spells "mkdir,rmdir,open" (filed.followedBy given).syscalls :=
    ⟨_, List.cons_ne_nil _ _,
      .item hnone hnone (.item hnone hnone (.item hnone hnone .nil)), by decide +kernel⟩
  have hs : filed.WrittenIn filedSection := ⟨hsyscalls, rfl, rfl, rfl, rfl, rfl, rfl, rfl⟩
  have hjoint : (filed.followedBy given).WrittenIn jointSection :=
    ⟨hjoined, rfl, rfl, rfl, rfl, rfl, rfl, rfl⟩
  have ho : given.GivenBy givenOptions := ⟨rfl, rfl, rfl, rfl, rfl, rfl, rfl, rfl⟩
  exact ⟨hfiled, hgiven, hs, ho, hjoint, mergeInto_writtenIn hfiled hgiven hs ho hjoint⟩

end RuleSettings

end LinuxAudit
