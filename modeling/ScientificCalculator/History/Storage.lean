/-
**Where a history is stored.**

A history lives in memory only, or in a file. The place of the file may turn out to be a directory,
or to lie under something that is no directory; then nothing can be read or written there.

* `Storage`: the places, with the bytes of a file.
* `Storage.load`: the history found there, empty when there is none to read.
* `Storage.save`: the place after a history is written.
-/

import ScientificCalculator.History.Document

namespace ScientificCalculator

/-- The places of a history: nowhere, a file that may not exist yet, a path that is a directory, and
a path whose parent is a regular file. -/
inductive Storage
  | memory
  | file (content : Option ByteArray)
  | directory
  | underFile

/-- Why a history cannot be written. -/
inductive StorageFault
  | isDirectory
  | parentExists
  deriving DecidableEq

/-- The text of a storage fault. -/
def StorageFault.message : StorageFault → String
  | isDirectory => "accès au fichier d’historique: Is a directory (os error 21)"
  | parentExists => "accès au fichier d’historique: File exists (os error 17)"

namespace Storage

/-- The stored text, where there is one and it is text. -/
def text? : Storage → Option String
  | file (some content) => String.fromUTF8? content
  | _ => none

/-- The stored history; anything unreadable counts as none. -/
def load (storage : Storage) : History :=
  match storage.text? with
  | some document => History.ofDocument document
  | none => .empty

/-- The place after a text is written. In memory nothing is kept. -/
def write (storage : Storage) (text : String) : Except StorageFault Storage :=
  match storage with
  | memory => .ok memory
  | file _ => .ok (file (some text.toUTF8))
  | directory => .error .isDirectory
  | underFile => .error .parentExists

/-- The place after a history is written. -/
def save (storage : Storage) (history : History) : Except StorageFault Storage :=
  storage.write history.document

end Storage

end ScientificCalculator
