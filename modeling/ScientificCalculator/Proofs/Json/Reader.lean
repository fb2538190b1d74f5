/-
**A value is read from its lexemes.**

The reader keeps a stack of the containers that are open. Where a value is expected it takes exactly
the lexemes of one value, puts the value into the innermost container and goes on with what comes
next, however deep the value is nested and whatever is open around it.

* `Json.lexemes`: the lexemes of a value.
* `Json.value?_lexemes`: reading the lexemes of a value, with any stack and any lexemes after them.
* `Lexeme.ReadsAs`: a text that is read as the same lexemes in front of every text.
* `Json.ofText?_of_readsAs`: the value of a text that is read as its lexemes.
-/

import ScientificCalculator.Json.Reader
import ScientificCalculator.Proofs.Json.Quoted

namespace ScientificCalculator

namespace Json

section Values

mutual

/-- The lexemes of a value. -/
def lexemes : Json → List Lexeme
  | scalar => [.scalar]
  | string items => [.string items]
  | array [] => [.openArray, .closeArray]
  | array (first :: others) => .openArray :: (first.lexemes ++ lexemesAfterValue others)
  | object [] => [.openObject, .closeObject]
  | object ((key, first) :: others) =>
    .openObject :: .string key :: .colon :: (first.lexemes ++ lexemesAfterField others)

/-- The lexemes behind a value of an array, up to its end. -/
def lexemesAfterValue : List Json → List Lexeme
  | [] => [.closeArray]
  | next :: others => .comma :: (next.lexemes ++ lexemesAfterValue others)

/-- The lexemes behind a field of an object, up to its end. -/
def lexemesAfterField : List (List StringItem × Json) → List Lexeme
  | [] => [.closeObject]
  | (key, next) :: others =>
    .comma :: .string key :: .colon :: (next.lexemes ++ lexemesAfterField others)

end

/-- No value starts with the end of an array. -/
theorem lexemes_append_ne (value : Json) (rest after : List Lexeme) :
    value.lexemes ++ rest ≠ .closeArray :: after := by
  match value with
  | scalar | string _ | array [] | array (_ :: _) | object [] | object ((_, _) :: _) =>
    simp [lexemes]

mutual

/-- **A value is read from its lexemes**, whatever is open around it and whatever comes next. -/
theorem value?_lexemes (value : Json) (rest : List Lexeme) (stack : List Context) :
    value? (value.lexemes ++ rest) stack = filled? value rest stack :=
  match value with
  | scalar => by rw [lexemes, List.singleton_append, value?]
  | string items => by rw [lexemes, List.singleton_append, value?]
  | array [] => by rw [lexemes, List.cons_append, List.singleton_append, value?]
  | array (first :: others) => by
    rw [lexemes, List.cons_append, List.append_assoc, value?, value?_lexemes first,
      filled?_lexemesAfterValue others]
    · rfl
    · exact fun after equal => lexemes_append_ne first _ after equal
  | object [] => by rw [lexemes, List.cons_append, List.singleton_append, value?]
  | object ((key, first) :: others) => by
    rw [lexemes, List.cons_append, List.cons_append, List.cons_append, List.append_assoc, value?,
      value?_lexemes first, filled?_lexemesAfterField others]
    rfl

/-- The rest of an array is read after one of its values. -/
theorem filled?_lexemesAfterValue (others : List Json) (ended : Json) (before : List Json)
    (rest : List Lexeme) (stack : List Context) :
    filled? ended (lexemesAfterValue others ++ rest) (.inArray before :: stack) =
      filled? (.array (before.reverse ++ ended :: others)) rest stack :=
  match others with
  | [] => by
    rw [lexemesAfterValue, List.singleton_append, filled?, List.reverse_cons]
  | next :: others => by
    rw [lexemesAfterValue, List.cons_append, List.append_assoc, filled?, value?_lexemes next,
      filled?_lexemesAfterValue others, List.reverse_cons, List.append_assoc]
    rfl

/-- The rest of an object is read after the value of one of its fields. -/
theorem filled?_lexemesAfterField (others : List (List StringItem × Json)) (ended : Json)
    (before : List (List StringItem × Json)) (key : List StringItem) (rest : List Lexeme)
    (stack : List Context) :
    filled? ended (lexemesAfterField others ++ rest) (.inObject before key :: stack) =
      filled? (.object (before.reverse ++ (key, ended) :: others)) rest stack :=
  match others with
  | [] => by
    rw [lexemesAfterField, List.singleton_append, filled?, List.reverse_cons]
  | (next, value) :: others => by
    rw [lexemesAfterField, List.cons_append, List.cons_append, List.cons_append,
      List.append_assoc, filled?, value?_lexemes value, filled?_lexemesAfterField others,
      List.reverse_cons, List.append_assoc]
    rfl

end

end Values

end Json

namespace Lexeme

section Texts

variable {first second : List Char} {one two : List Lexeme}

/-- The text is read as the lexemes, whatever comes after it. -/
def ReadsAs (text : List Char) (lexemes : List Lexeme) : Prop :=
  ∀ rest, ofText? (text ++ rest) = (ofText? rest).map (lexemes ++ ·)

theorem ReadsAs.append (leftward : ReadsAs first one) (rightward : ReadsAs second two) :
    ReadsAs (first ++ second) (one ++ two) := by
  intro rest
  rw [List.append_assoc, leftward, rightward, Option.map_map]
  congr 1
  funext read
  exact (List.append_assoc _ _ _).symm

theorem ofText?_of_next? {sign : Char} {inside after : List Char} {lexeme : Lexeme}
    (solid : isSpace sign = false) (found : next? sign inside = some (lexeme, after)) :
    ofText? (sign :: inside) = (ofText? after).map (lexeme :: ·) := by
  rw [ofText?, if_neg (Bool.eq_false_iff.mp solid)]
  split
  · rename_i none
    rw [found] at none
    cases none
  · rename_i read rest equal
    rw [found] at equal
    obtain ⟨rfl, rfl⟩ := Prod.mk.inj (Option.some.inj equal)
    rfl

/-- One lexeme that is read in front of every text. -/
theorem readsAs_of_next? {sign : Char} {inside : List Char} {lexeme : Lexeme}
    (solid : isSpace sign = false)
    (found : ∀ rest, next? sign (inside ++ rest) = some (lexeme, rest)) :
    ReadsAs (sign :: inside) [lexeme] := by
  intro rest
  rw [List.cons_append, ofText?_of_next? solid (found rest)]
  rfl

/-- **A written string is read as one lexeme**, whatever comes after it. -/
theorem readsAs_quoted (text : String) :
    ReadsAs (Json.quoted text.toList) [.string (Json.items text)] := by
  refine readsAs_of_next? (by decide) fun rest => ?_
  show next? '"' ((text.toList.flatMap Json.escape ++ ['"']) ++ rest) = _
  rw [List.append_assoc]
  exact next?_quoted rest text

end Texts

end Lexeme

/-- **A text that is read as the lexemes of a value denotes the value.** -/
theorem Json.ofText?_of_readsAs {text : List Char} {value : Json}
    (reads : Lexeme.ReadsAs text value.lexemes) : Json.ofText? text = some value := by
  have lexemes : Lexeme.ofText? text = some value.lexemes := by
    have alone := reads []
    rwa [List.append_nil, Lexeme.ofText?, Option.map_some, List.append_nil] at alone
  have read := value?_lexemes value [] []
  rw [List.append_nil, filled?] at read
  rw [Json.ofText?, lexemes]
  exact read

end ScientificCalculator
