/-
**The document of a history.**

A history is stored as a JSON array of objects with the fields `expression` and `result`. Reading is
all or nothing: an entry may be such an object, with other fields that are skipped, or an array of
the two strings; any fault makes the whole document unreadable.

* `History.document`: the document of a history.
* `History.ofDocument`: the history a document holds, empty when it is unreadable.
-/

import ScientificCalculator.History.Basic
import ScientificCalculator.Json.Quoted
import ScientificCalculator.Json.Reader

namespace ScientificCalculator

namespace Entry

/-- The key of the expression. -/
def expressionKey : String := "expression"

/-- The key of the result. -/
def resultKey : String := "result"

/-- The object of an entry. -/
def document (entry : Entry) : List Char :=
  '{' :: Json.quoted expressionKey.toList ++ ':' :: Json.quoted entry.expression.toList ++
    ',' :: Json.quoted resultKey.toList ++ ':' :: Json.quoted entry.result.toList ++ ['}']

/-- A field with its key decoded. -/
def decodeField? (field : List StringItem × Json) : Option (String × Json) :=
  (decodeString? field.1).map (·, field.2)

/-- The only value of a key. -/
def only? (key : String) (fields : List (String × Json)) : Option Json :=
  match fields.filter fun field => field.1 = key with
  | [(_, value)] => some value
  | _ => none

/-- The text of a value that is a string. -/
def text? : Json → Option String
  | .string items => decodeString? items
  | _ => none

/-- The entry that a value holds: an array of two strings, or an object with each of the two keys
once, both for strings. -/
def ofJson? : Json → Option Entry
  | .array [expression, result] => do
    some ⟨← text? expression, ← text? result⟩
  | .object fields => do
    let decoded ← fields.mapM decodeField?
    some ⟨← text? (← only? expressionKey decoded), ← text? (← only? resultKey decoded)⟩
  | _ => none

end Entry

namespace History

/-- The document of a list of entries. -/
def documentOf (entries : List Entry) : String :=
  String.ofList ('[' :: [','].intercalate (entries.map Entry.document) ++ [']'])

/-- The document of a history. -/
def document (history : History) : String :=
  documentOf history.entries

/-- The entries that a document holds, however many. -/
def entries? (document : String) : Option (List Entry) :=
  match Json.ofText? document.toList with
  | some (.array values) => values.mapM Entry.ofJson?
  | _ => none

/-- The history that a document holds: its first entries, or none when it is unreadable. -/
def ofDocument (document : String) : History :=
  match entries? document with
  | some entries => ofEntries entries
  | none => empty

end History

end ScientificCalculator
