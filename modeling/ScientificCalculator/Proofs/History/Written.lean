/-
**The texts that hold a history.**

A list of entries is written as an array with a value for each of them: an array of two strings, or
an object with one field for each of the two texts and any other fields, in any order. White space
and escapes are free, and what other fields hold is any value at all. A file is loaded to the first
ten entries of such a text, once all of its entries are found to be right, and any other content to
no entries.

* `Json.HasText`, `Json.Holds`: the entry that a value holds.
* `History.Written`: the entries that a text holds.
* `Entry.ofJson?_eq_some_iff`, `History.entries?_eq_some_iff`: what is read of values and of texts.
* `Storage.load_written`: what is loaded from a file.
-/

import ScientificCalculator.Proofs.History.Document
import ScientificCalculator.Proofs.Json.Decoding
import Mathlib.Data.List.Forall2

namespace ScientificCalculator

open StringItem (Denotes)

/-! ### The format -/

section Format

/-- One field has this name, and its value is a string for the text. -/
def Json.HasText (fields : List (List StringItem × Json)) (name text : String) : Prop :=
  ∃ before key items after, fields = before ++ (key, .string items) :: after ∧
    Denotes key name.toList ∧ Denotes items text.toList ∧
    ∀ other ∈ before ++ after, ¬Denotes other.1 name.toList

/-- The value holds the entry: as the array of its two texts, or as an object with a field for each
of them. The names of all fields are texts. -/
inductive Json.Holds : Json → Entry → Prop
  | pair {first second : List StringItem} {entry : Entry} :
    Denotes first entry.expression.toList → Denotes second entry.result.toList →
      Holds (.array [.string first, .string second]) entry
  | object {fields : List (List StringItem × Json)} {entry : Entry} :
    (∀ field ∈ fields, ∃ name, Denotes field.1 name) →
      HasText fields "expression" entry.expression → HasText fields "result" entry.result →
        Holds (.object fields) entry

/-- The text holds the entries: it spells an array with a value for each of them. -/
def History.Written (text : String) (entries : List Entry) : Prop :=
  ∃ values, Lexeme.Spells text.toList (Json.array values).lexemes ∧
    List.Forall₂ Json.Holds values entries

end Format

/-! ### The strings of a value -/

namespace Json

section Members

/-- All strings of the value have units of sixteen bits. -/
def Narrow (value : Json) : Prop :=
  ∀ items, .string items ∈ value.lexemes → StringItem.Narrow items

variable {values : List Json} {fields : List (List StringItem × Json)} {value : Json}
  {items key : List StringItem}

theorem Narrow.string (narrow : (string items).Narrow) : StringItem.Narrow items :=
  narrow items List.mem_cons_self

theorem Narrow.array (narrow : (array values).Narrow) (member : value ∈ values) :
    value.Narrow := by
  obtain ⟨before, after, rfl⟩ := List.append_of_mem member
  have whole := openedArray_append before.reverse value after
  rw [List.reverse_reverse] at whole
  intro items inside
  refine narrow items ?_
  rw [← whole]
  exact List.mem_append_right _ (List.mem_append_left _ inside)

theorem Narrow.object (narrow : (object fields).Narrow) (member : (key, value) ∈ fields) :
    StringItem.Narrow key ∧ value.Narrow := by
  obtain ⟨before, after, rfl⟩ := List.append_of_mem member
  have whole := openedObject_append before.reverse key value after
  rw [List.reverse_reverse] at whole
  constructor
  · refine narrow key ?_
    rw [← whole]
    exact List.mem_append_right _ List.mem_cons_self
  · intro items inside
    refine narrow items ?_
    rw [← whole]
    exact List.mem_append_right _ (.tail _ (.tail _ (List.mem_append_left _ inside)))

end Members

end Json

/-! ### Entries -/

namespace Entry

section Fields

variable {fields : List (List StringItem × Json)} {decoded : List (String × Json)}
  {name text : String} {value : Json} {entry : Entry}

/-- A field with its name, where this is a text. -/
def named (field : List StringItem × Json) : String × Json :=
  ((decodeString? field.1).getD "", field.2)

/-- The names are decoded one by one. -/
theorem mapM_decodeField?_eq_some_iff :
    fields.mapM decodeField? = some decoded ↔
      (∀ field ∈ fields, ∃ name, decodeString? field.1 = some name) ∧
        decoded = fields.map named := by
  induction fields generalizing decoded with
  | nil => simp [eq_comm]
  | cons first rest ih =>
    simp only [List.mapM_cons, Option.bind_eq_bind, Option.bind_eq_some_iff, Option.pure_def,
      Option.some.injEq, ih, List.forall_mem_cons, List.map_cons]
    constructor
    · rintro ⟨_, head, _, ⟨keyed, rfl⟩, rfl⟩
      obtain ⟨name, found, rfl⟩ := Option.map_eq_some_iff.mp head
      exact ⟨⟨⟨name, found⟩, keyed⟩, by rw [named, found]; rfl⟩
    · rintro ⟨⟨⟨name, found⟩, keyed⟩, rfl⟩
      refine ⟨named first, ?_, rest.map named, ⟨keyed, rfl⟩, rfl⟩
      rw [decodeField?, named, found]
      rfl

/-- The value of the only field of a name. -/
theorem only?_eq_some_iff :
    only? name decoded = some value ↔
      ∃ before after, decoded = before ++ (name, value) :: after ∧
        ∀ other ∈ before ++ after, other.1 ≠ name := by
  have single (member : String × Json) :
      decoded.filter (fun field => field.1 = name) = [member] ↔
        ∃ before after, decoded = before ++ member :: after ∧ member.1 = name ∧
          ∀ other ∈ before ++ after, other.1 ≠ name := by
    simp only [List.filter_eq_cons_iff, List.filter_eq_nil_iff, decide_eq_true_eq, List.mem_append,
      or_imp, forall_and]
    constructor
    · rintro ⟨before, after, equal, others, same, rest⟩
      exact ⟨before, after, equal, same, others, rest⟩
    · rintro ⟨before, after, equal, same, others, rest⟩
      exact ⟨before, after, equal, others, same, rest⟩
  unfold only?
  split
  · rename_i key found equal
    obtain ⟨before, after, rfl, rfl, others⟩ := (single (key, found)).mp equal
    constructor
    · rintro ⟨⟩
      exact ⟨before, after, rfl, others⟩
    · rintro ⟨_, _, again, rest⟩
      have same := (single _).mpr ⟨_, _, again, rfl, rest⟩
      rw [equal] at same
      exact congrArg (some ∘ Prod.snd) (List.cons.inj same).1
  · rename_i other
    refine ⟨nofun, ?_⟩
    rintro ⟨before, after, equal, others⟩
    exact absurd ((single _).mpr ⟨before, after, equal, rfl, others⟩) (other _ _)

theorem text?_eq_some_iff :
    text? value = some text ↔ ∃ items, value = .string items ∧ decodeString? items = some text := by
  cases value with
  | string items => exact ⟨fun read => ⟨items, rfl, read⟩, by rintro ⟨_, ⟨⟩, read⟩; exact read⟩
  | _ => exact ⟨nofun, by rintro ⟨_, ⟨⟩, _⟩⟩

variable (narrow : (Json.object fields).Narrow)

include narrow

theorem decodeString?_name {field : List StringItem × Json} (member : field ∈ fields) :
    decodeString? field.1 = some name ↔ Denotes field.1 name.toList :=
  decodeString?_eq_some_iff (narrow.object member).1

/-- **The text of a field that is found by its name.** -/
theorem only?_named_iff (keyed : ∀ field ∈ fields, ∃ name, decodeString? field.1 = some name) :
    (∃ value, only? name (fields.map named) = some value ∧ text? value = some text) ↔
      Json.HasText fields name text := by
  have key {field : List StringItem × Json} (member : field ∈ fields) :
      (named field).1 = name ↔ Denotes field.1 name.toList := by
    obtain ⟨other, found⟩ := keyed field member
    rw [← decodeString?_name narrow member, named, found]
    exact ⟨congrArg some, Option.some.inj⟩
  constructor
  · rintro ⟨value, found, read⟩
    obtain ⟨_, _, all, others⟩ := only?_eq_some_iff.mp found
    obtain ⟨items, rfl, read⟩ := text?_eq_some_iff.mp read
    obtain ⟨before, _, rfl, rfl, rest⟩ := List.map_eq_append_iff.mp all
    obtain ⟨⟨name', _⟩, after, rfl, equal, rfl⟩ := List.map_eq_cons_iff.mp rest
    obtain ⟨same, rfl⟩ := Prod.mk.inj equal
    have here : (name', Json.string items) ∈ before ++ (name', .string items) :: after :=
      List.mem_append_right _ List.mem_cons_self
    refine ⟨before, name', items, after, rfl, (key here).mp same,
      (decodeString?_eq_some_iff (narrow.object here).2.string).mp read, ?_⟩
    intro other member denotes
    have inside := ((List.sublist_cons_self (name', Json.string items) after).append_left
      before).subset member
    refine others (named other) ?_ ((key inside).mpr denotes)
    rw [← List.map_append]
    exact List.mem_map_of_mem member
  · rintro ⟨before, name', items, after, rfl, isName, isText, others⟩
    have here : (name', Json.string items) ∈ before ++ (name', .string items) :: after :=
      List.mem_append_right _ List.mem_cons_self
    have same : named (name', .string items) = (name, .string items) :=
      Prod.ext ((key here).mpr isName) rfl
    refine ⟨.string items, only?_eq_some_iff.mpr ⟨before.map named, after.map named, ?_, ?_⟩,
      text?_eq_some_iff.mpr ⟨items, rfl, ?_⟩⟩
    · rw [List.map_append, List.map_cons, same]
    · intro other member
      rw [← List.map_append] at member
      obtain ⟨field, source, rfl⟩ := List.mem_map.mp member
      have inside := ((List.sublist_cons_self (name', Json.string items) after).append_left
        before).subset source
      exact fun equal => others field source ((key inside).mp equal)
    · exact (decodeString?_eq_some_iff (narrow.object here).2.string).mpr isText

end Fields

section Values

variable {value : Json} {entry : Entry}

/-- **The entry of a value is the one that the value holds.** -/
theorem ofJson?_eq_some_iff (narrow : value.Narrow) :
    ofJson? value = some entry ↔ value.Holds entry := by
  constructor
  · intro found
    unfold ofJson? at found
    split at found
    · simp only [Option.bind_eq_bind, Option.bind_eq_some_iff, Option.some.injEq] at found
      obtain ⟨_, readFirst, _, readSecond, rfl⟩ := found
      obtain ⟨first, rfl, readFirst⟩ := text?_eq_some_iff.mp readFirst
      obtain ⟨second, rfl, readSecond⟩ := text?_eq_some_iff.mp readSecond
      have narrowFirst := (narrow.array List.mem_cons_self).string
      have narrowSecond := (narrow.array (.tail _ List.mem_cons_self)).string
      exact .pair ((decodeString?_eq_some_iff narrowFirst).mp readFirst)
        ((decodeString?_eq_some_iff narrowSecond).mp readSecond)
    · simp only [Option.bind_eq_bind, Option.bind_eq_some_iff, Option.some.injEq] at found
      obtain ⟨_, decoded, one, oneFound, expression, readOne, two, twoFound, result, readTwo,
        rfl⟩ := found
      obtain ⟨keyed, rfl⟩ := mapM_decodeField?_eq_some_iff.mp decoded
      refine .object (fun field member => ?_)
        ((only?_named_iff narrow keyed).mp ⟨one, oneFound, readOne⟩)
        ((only?_named_iff narrow keyed).mp ⟨two, twoFound, readTwo⟩)
      obtain ⟨name, found⟩ := keyed field member
      exact ⟨_, (decodeString?_name narrow member).mp found⟩
    · cases found
  · intro holds
    cases holds with
    | pair isFirst isSecond =>
      have narrowFirst := (narrow.array List.mem_cons_self).string
      have narrowSecond := (narrow.array (.tail _ List.mem_cons_self)).string
      rw [ofJson?, text?, text?, (decodeString?_eq_some_iff narrowFirst).mpr isFirst,
        (decodeString?_eq_some_iff narrowSecond).mpr isSecond]
      rfl
    | object denoted expression result =>
      rename_i fields
      have keyed : ∀ field ∈ fields, ∃ name, decodeString? field.1 = some name := by
        intro field member
        obtain ⟨name, denotes⟩ := denoted field member
        rw [← String.toList_ofList (l := name)] at denotes
        exact ⟨_, (decodeString?_name narrow member).mpr denotes⟩
      obtain ⟨one, oneFound, readOne⟩ := (only?_named_iff narrow keyed).mpr expression
      obtain ⟨two, twoFound, readTwo⟩ := (only?_named_iff narrow keyed).mpr result
      have decoded := mapM_decodeField?_eq_some_iff.mpr ⟨keyed, rfl⟩
      simp only [ofJson?, decoded, Option.bind_eq_bind, Option.bind_some]
      rw [show expressionKey = "expression" from rfl, show resultKey = "result" from rfl, oneFound,
        twoFound]
      simp only [Option.bind_some, readOne, readTwo]

/-- The values of an array are read one by one. -/
theorem mapM_ofJson?_eq_some_iff {values : List Json} {entries : List Entry}
    (narrow : ∀ value ∈ values, value.Narrow) :
    values.mapM ofJson? = some entries ↔ List.Forall₂ Json.Holds values entries := by
  induction values generalizing entries with
  | nil => simp [eq_comm]
  | cons first rest ih =>
    obtain ⟨narrowFirst, narrow⟩ := List.forall_mem_cons.mp narrow
    simp only [List.mapM_cons, Option.bind_eq_bind, Option.bind_eq_some_iff, Option.pure_def,
      Option.some.injEq, ih narrow, ofJson?_eq_some_iff narrowFirst, List.forall₂_cons_left_iff]
    constructor
    · rintro ⟨entry, holds, others, hold, rfl⟩
      exact ⟨entry, others, holds, hold, rfl⟩
    · rintro ⟨entry, others, holds, hold, rfl⟩
      exact ⟨entry, holds, others, hold, rfl⟩

end Values

end Entry

/-! ### Files -/

section Files

variable {text : String} {entries : List Entry} {content : ByteArray}

/-- **The entries of a document are those that are written in it.** -/
theorem History.entries?_eq_some_iff :
    entries? text = some entries ↔ Written text entries := by
  have members {values : List Json}
      (spells : Lexeme.Spells text.toList (Json.array values).lexemes) :
      ∀ value ∈ values, value.Narrow := fun value member =>
    Json.Narrow.array (fun _ => spells.narrow) member
  constructor
  · intro found
    unfold entries? at found
    split at found
    · rename_i values read
      have spells := Json.ofText?_eq_some_iff.mp read
      exact ⟨values, spells, (Entry.mapM_ofJson?_eq_some_iff (members spells)).mp found⟩
    · cases found
  · rintro ⟨values, spells, hold⟩
    rw [entries?, Json.ofText?_eq_some_iff.mpr spells]
    exact (Entry.mapM_ofJson?_eq_some_iff (members spells)).mpr hold

/-- The document of a list of entries holds them. -/
theorem History.written_documentOf (entries : List Entry) : Written (documentOf entries) entries :=
  entries?_eq_some_iff.mp (entries?_documentOf entries)

namespace Storage

/-- The text of a file is the one that its bytes encode. -/
theorem text?_eq_some_iff : (file (some content)).text? = some text ↔ content = text.toUTF8 := by
  constructor
  · intro found
    replace found : String.fromUTF8? content = some text := found
    rw [String.fromUTF8?] at found
    split at found
    · rw [← Option.some.inj found]
      rfl
    · cases found
  · rintro rfl
    exact text?_file text

/-- **What is loaded from a file.** Of a text that holds a list of entries, however it is written,
the first ten are loaded; of any other content none, be it no text at all or a text in which any
entry is not right. -/
theorem load_written :
    (∀ (text : String) (entries : List Entry), History.Written text entries →
      (file (some text.toUTF8)).load.entries = entries.take 10) ∧
    ∀ content : ByteArray,
      (¬∃ (text : String) (entries : List Entry),
        content = text.toUTF8 ∧ History.Written text entries) →
      (file (some content)).load.entries = [] := by
  constructor
  · intro text entries written
    rw [load, text?_file]
    show (History.ofDocument text).entries = _
    rw [History.ofDocument, History.entries?_eq_some_iff.mpr written]
    rfl
  · intro content other
    cases stored : (file (some content)).text? with
    | none =>
      rw [load, stored]
      rfl
    | some text =>
      have unread : History.entries? text = none := by
        refine Option.eq_none_iff_forall_ne_some.mpr fun entries read => other ?_
        exact ⟨text, entries, text?_eq_some_iff.mp stored,
          History.entries?_eq_some_iff.mp read⟩
      rw [load, stored]
      show (History.ofDocument text).entries = _
      rw [History.ofDocument, unread]
      rfl

/-- An array and an object for two entries, with white space, escapes and a field that is skipped;
and contents with a mark of the encoding, with bytes that are no text, and with a field twice in one
object. -/
theorem load_written_twice :
    let text := "[ [\"1\", \"\\ud83d\\ude00\"],\n" ++
      "\x7b\"more\":[[],-1e5], \"result\":\"\",\"expression\":\"\\u0032\"\x7d] "
    let marked := "\uFEFF[]".toUTF8
    let broken : ByteArray := ⟨#[0x5B, 0xFF, 0x5D]⟩
    let double := "[\x7b\"expression\":\"\",\"result\":\"\",\"result\":\"\"\x7d]".toUTF8
    History.Written text [⟨"1", "😀"⟩, ⟨"2", ""⟩] ∧
      (file (some text.toUTF8)).load.entries = [⟨"1", "😀"⟩, ⟨"2", ""⟩] ∧
      ∀ content ∈ [marked, broken, double], (file (some content)).load.entries = [] := by
  intro text marked broken double
  have written : History.Written text [⟨"1", "😀"⟩, ⟨"2", ""⟩] :=
    History.entries?_eq_some_iff.mp (by decide +kernel)
  have unread : ∀ content ∈ [marked, broken, double],
      (file (some content)).text?.bind History.entries? = none := by decide +kernel
  refine ⟨written, load_written.1 text _ written, fun content member => ?_⟩
  refine load_written.2 content ?_
  rintro ⟨found, entries, same, held⟩
  have none := unread content member
  rw [text?_eq_some_iff.mpr same, Option.bind_some, History.entries?_eq_some_iff.mpr held] at none
  cases none

end Storage

end Files

end ScientificCalculator
