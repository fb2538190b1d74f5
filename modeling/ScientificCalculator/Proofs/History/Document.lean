/-
**A stored history is found again.**

The document of a list of entries is read as one array with one object for each entry, and each
object holds the entry it was made of: no character of an expression or of a result is lost or
taken for a part of the document. So a history that is saved is loaded again as it was, and of a
longer list the first entries are loaded.

* `Entry.json`: the object of an entry.
* `Entry.readsAs_document`, `History.readsAs_documentOf`: what the documents are read as.
* `History.entries?_documentOf`: a document holds the entries it was made of.
* `Storage.load_document`, `Storage.load_saved`: loading after saving.
-/

import ScientificCalculator.History.Storage
import ScientificCalculator.Proofs.Json.Reader

namespace ScientificCalculator

open Lexeme (ReadsAs readsAs_of_next? readsAs_quoted)

namespace Entry

section Objects

/-- The object that the document of an entry is read as. -/
def json (entry : Entry) : Json :=
  .object [(Json.items expressionKey, .string (Json.items entry.expression)),
    (Json.items resultKey, .string (Json.items entry.result))]

/-- **The document of an entry is read as its object.** -/
theorem readsAs_document (entry : Entry) : ReadsAs entry.document entry.json.lexemes := by
  have opened : ReadsAs ['{'] [.openObject] := readsAs_of_next? rfl fun _ => rfl
  have colon : ReadsAs [':'] [.colon] := readsAs_of_next? rfl fun _ => rfl
  have comma : ReadsAs [','] [.comma] := readsAs_of_next? rfl fun _ => rfl
  have closed : ReadsAs ['}'] [.closeObject] := readsAs_of_next? rfl fun _ => rfl
  have field (key text : String) := ((readsAs_quoted key).append colon).append (readsAs_quoted text)
  have fields := ((field expressionKey entry.expression).append comma).append
    (field resultKey entry.result)
  have whole := (opened.append fields).append closed
  simpa [document, json, Json.lexemes, Json.lexemesAfterField] using whole

/-- A key and a string are found where they were written. -/
theorem decodeField?_items (key text : String) :
    decodeField? (Json.items key, .string (Json.items text)) =
      some (key, .string (Json.items text)) := by
  rw [decodeField?, decodeString?_items, Option.map_some]

/-- **The object of an entry holds the entry.** -/
theorem ofJson?_json (entry : Entry) : ofJson? entry.json = some entry := by
  have expression : only? expressionKey [(expressionKey, .string (Json.items entry.expression)),
      (resultKey, .string (Json.items entry.result))] =
        some (.string (Json.items entry.expression)) := rfl
  have result : only? resultKey [(expressionKey, .string (Json.items entry.expression)),
      (resultKey, .string (Json.items entry.result))] =
        some (.string (Json.items entry.result)) := rfl
  simp only [ofJson?, json, List.mapM_cons, List.mapM_nil, decodeField?_items, Option.bind_eq_bind,
    Option.bind_some, Option.pure_def, expression, result, text?, decodeString?_items]

end Objects

end Entry

namespace History

section Documents

/-- The lexemes of a row of objects, each with the comma in front of it. -/
theorem readsAs_intercalate (first : Entry) (others : List Entry) :
    ReadsAs ([','].intercalate ((first :: others).map Entry.document) ++ [']'])
      (first.json.lexemes ++ Json.lexemesAfterValue (others.map Entry.json)) := by
  induction others generalizing first with
  | nil =>
    have closed : ReadsAs [']'] [.closeArray] := readsAs_of_next? rfl fun _ => rfl
    simpa [List.intercalate, Json.lexemesAfterValue] using first.readsAs_document.append closed
  | cons next others ih =>
    have comma : ReadsAs [','] [.comma] := readsAs_of_next? rfl fun _ => rfl
    have row := (first.readsAs_document.append comma).append (ih next)
    simpa [List.intercalate, Json.lexemesAfterValue] using row

/-- **The document of a list of entries is read as the array of their objects.** -/
theorem readsAs_documentOf (entries : List Entry) :
    ReadsAs (documentOf entries).toList (Json.array (entries.map Entry.json)).lexemes := by
  have opened : ReadsAs ['['] [.openArray] := readsAs_of_next? rfl fun _ => rfl
  rw [documentOf, String.toList_ofList]
  cases entries with
  | nil =>
    have closed : ReadsAs [']'] [.closeArray] := readsAs_of_next? rfl fun _ => rfl
    exact opened.append closed
  | cons first others => exact opened.append (readsAs_intercalate first others)

/-- **A document holds the entries it was made of.** -/
theorem entries?_documentOf (entries : List Entry) :
    entries? (documentOf entries) = some entries := by
  have objects : (entries.map Entry.json).mapM Entry.ofJson? = some entries := by
    induction entries with
    | nil => rfl
    | cons first others ih =>
      rw [List.map_cons, List.mapM_cons, Entry.ofJson?_json, ih]
      rfl
  rw [entries?, Json.ofText?_of_readsAs (readsAs_documentOf entries)]
  exact objects

/-- A history has no more entries than are kept. -/
theorem ofEntries_entries (history : History) : ofEntries history.entries = history :=
  ext (List.take_of_length_le history.length_le)

end Documents

end History

namespace Storage

section Files

theorem text?_file (text : String) : (file (some text.toUTF8)).text? = some text := by
  show String.fromUTF8? text.toUTF8 = some text
  rw [String.fromUTF8?, String.toUTF8_eq_toByteArray, dif_pos text.isValidUTF8]
  rfl

/-- **The first entries of a document are loaded from its file.** -/
theorem load_documentOf (entries : List Entry) :
    (file (some (History.documentOf entries).toUTF8)).load = History.ofEntries entries := by
  rw [load, text?_file]
  show History.ofDocument (History.documentOf entries) = _
  rw [History.ofDocument, History.entries?_documentOf]

/-- What is written for a history is loaded as the history. -/
theorem load_document (history : History) :
    (file (some history.document.toUTF8)).load = history := by
  rw [History.document, load_documentOf, History.ofEntries_entries]

/-- **Loading after saving gives the history that was saved**, whatever the file held before. Of any
list of entries whose document stands in a file the first ten are loaded, in their order. -/
theorem load_saved :
    (∀ (history : History) (content : Option ByteArray),
      (file content).save history = .ok (file (some history.document.toUTF8)) ∧
        (file (some history.document.toUTF8)).load = history) ∧
    ∀ entries : List Entry,
      (file (some (History.documentOf entries).toUTF8)).load.entries = entries.take 10 := by
  refine ⟨fun history content => ⟨rfl, load_document history⟩, fun entries => ?_⟩
  rw [load_documentOf]
  rfl

end Files

end Storage

end ScientificCalculator
