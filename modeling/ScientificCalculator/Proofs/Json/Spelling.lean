/-
**The spelling of lexemes.**

The lexemes of a JSON text have white space between them, before them and after them, or none. How a
lexeme is spelled is said as the format has it, with no word about how it is read. The head of a
number may be a number as well, but it is not taken for one where white space, another lexeme or
nothing comes behind the whole. So the lexemes that are read are those that are spelled, if no two
scalars stand side by side, which they never do in a value.

* `Lexeme.Unsigned`, `Lexeme.Body`: numbers without a minus sign, and what stands between quotes.
* `Lexeme.Spelling`, `Lexeme.Spells`: the spellings of a lexeme, and the texts of many.
* `Lexeme.next?_sound`, `Lexeme.Spelling.next?`: one lexeme is read from its spelling.
* `Lexeme.ofText?_eq_some_iff`: the lexemes of a text are those it spells.
-/

import ScientificCalculator.Proofs.Json.Reader
import ScientificCalculator.Proofs.Text.Boundary
import Mathlib.Data.List.Chain
import Mathlib.Data.List.TakeWhile

namespace ScientificCalculator

namespace Lexeme

open Text (Stops)

/-! ### The spellings -/

section Grammar

/-- White space only. -/
def IsBlank (text : List Char) : Prop :=
  ∀ character ∈ text, character ∈ [' ', '\t', '\n', '\r']

/-- Decimal digits, one or more. -/
def IsDigits (text : List Char) : Prop :=
  text ≠ [] ∧ ∀ digit ∈ text, digit.isDigit = true

/-- The integer part of a number: a zero alone, or digits that do not start with a zero. -/
inductive Whole : List Char → Prop
  | zero : Whole ['0']
  | digits {first : Char} {rest : List Char} :
    first ≠ '0' → IsDigits (first :: rest) → Whole (first :: rest)

/-- The fraction of a number, or none. -/
inductive Fraction : List Char → Prop
  | absent : Fraction []
  | digits {digits : List Char} : IsDigits digits → Fraction ('.' :: digits)

/-- The exponent of a number, or none. -/
inductive Exponent : List Char → Prop
  | absent : Exponent []
  | digits {mark : Char} {sign digits : List Char} :
    mark ∈ ['e', 'E'] → sign ∈ [[], ['+'], ['-']] → IsDigits digits →
      Exponent (mark :: (sign ++ digits))

/-- A number without a minus sign. -/
inductive Unsigned : List Char → Prop
  | number {whole fraction exponent : List Char} :
    Whole whole → Fraction fraction → Exponent exponent →
      Unsigned (whole ++ (fraction ++ exponent))

/-- The letters behind a reverse solidus, with the characters they stand for. -/
def shortEscapes : List (Char × Char) :=
  [('"', '"'), ('\\', '\\'), ('/', '/'), ('b', '\x08'), ('f', '\x0C'), ('n', '\n'), ('r', '\r'),
    ('t', '\t')]

/-- A hexadecimal digit in either case, and its value. -/
def IsHex (digit : Char) (value : Nat) : Prop :=
  value < 16 ∧ digit.toLower = Nat.digitChar value

/-- What stands between the quotes of a string, and its items: characters that stand for
themselves, short escapes, and units written with four digits. -/
inductive Body : List Char → List StringItem → Prop
  | nil : Body [] []
  | plain {character : Char} {rest : List Char} {items : List StringItem} :
    character ∉ ['"', '\\'] → 0x20 ≤ character.toNat → Body rest items →
      Body (character :: rest) (.char character :: items)
  | short {letter character : Char} {rest : List Char} {items : List StringItem} :
    (letter, character) ∈ shortEscapes → Body rest items →
      Body ('\\' :: letter :: rest) (.char character :: items)
  | unit {first second third fourth : Char} {one two three four : Nat} {rest : List Char}
    {items : List StringItem} :
    IsHex first one → IsHex second two → IsHex third three → IsHex fourth four →
      Body rest items →
        Body ('\\' :: 'u' :: first :: second :: third :: fourth :: rest)
          (.unit (one * 0x1000 + two * 0x100 + three * 0x10 + four) :: items)

/-- The signs between values. -/
def signs : List (Char × Lexeme) :=
  [('[', openArray), (']', closeArray), ('{', openObject), ('}', closeObject), (',', comma),
    (':', colon)]

/-- The words that are values. -/
def words : List (List Char) :=
  ["null".toList, "true".toList, "false".toList]

/-- The spellings of a lexeme. -/
inductive Spelling : List Char → Lexeme → Prop
  | sign {character : Char} {lexeme : Lexeme} :
    (character, lexeme) ∈ signs → Spelling [character] lexeme
  | word {text : List Char} : text ∈ words → Spelling text scalar
  | number {text : List Char} : Unsigned text → Spelling text scalar
  | negative {text : List Char} : Unsigned text → Spelling ('-' :: text) scalar
  | quoted {body : List Char} {items : List StringItem} :
    Body body items → Spelling ('"' :: (body ++ ['"'])) (string items)

/-- The texts of lexemes, with white space anywhere between them. -/
inductive Spells : List Char → List Lexeme → Prop
  | nil {blank : List Char} : IsBlank blank → Spells blank []
  | cons {blank word text : List Char} {lexeme : Lexeme} {lexemes : List Lexeme} :
    IsBlank blank → Spelling word lexeme → Spells text lexemes →
      Spells (blank ++ (word ++ text)) (lexeme :: lexemes)

/-- No two scalars stand side by side. -/
def Apart (lexemes : List Lexeme) : Prop :=
  lexemes.IsChain fun first second => first = scalar → second ≠ scalar

end Grammar

/-! ### Numbers -/

section Numbers

variable {text word after rest : List Char}

theorem afterDigits?_sound (found : afterDigits? text = some after) :
    ∃ word, IsDigits word ∧ text = word ++ after := by
  cases text with
  | nil => cases found
  | cons first rest =>
    rw [afterDigits?, Option.ite_none_right_eq_some] at found
    obtain ⟨digit, equal⟩ := found
    refine ⟨first :: rest.takeWhile Char.isDigit, ⟨List.cons_ne_nil _ _, ?_⟩, ?_⟩
    · intro other member
      rcases List.mem_cons.mp member with rfl | member
      · exact digit
      · exact List.mem_takeWhile_imp member
    · rw [← Option.some.inj equal, List.cons_append, List.takeWhile_append_dropWhile]

/-- Digits end in front of what is no digit. -/
theorem afterDigits?_append (digits : IsDigits word) (stops : Stops Char.isDigit after) :
    afterDigits? (word ++ after) = some after := by
  obtain ⟨filled, digits⟩ := digits
  cases word with
  | nil => contradiction
  | cons first rest =>
    obtain ⟨digit, others⟩ := List.forall_mem_cons.mp digits
    rw [List.cons_append, afterDigits?, if_pos digit, Text.dropWhile_append rest stops,
      List.dropWhile_eq_nil_iff.mpr others, List.nil_append]

theorem afterWhole?_sound (found : afterWhole? text = some after) :
    ∃ word, Whole word ∧ text = word ++ after := by
  unfold afterWhole? at found
  split at found
  · exact ⟨['0'], .zero, by rw [Option.some.inj found]; rfl⟩
  · rename_i nonzero
    obtain ⟨word, digits, equal⟩ := afterDigits?_sound found
    refine ⟨word, ?_, equal⟩
    cases word with
    | nil => exact absurd rfl digits.1
    | cons first rest =>
      exact .digits (fun zero => nonzero _ (by rw [equal, zero]; rfl)) digits

theorem afterWhole?_append (whole : Whole word) (stops : Stops Char.isDigit after) :
    afterWhole? (word ++ after) = some after := by
  cases whole with
  | zero => rfl
  | digits nonzero digits =>
    have read := afterDigits?_append digits stops
    unfold afterWhole?
    split
    · rename_i equal
      exact absurd (List.cons.inj equal).1 nonzero
    · exact read

theorem afterFraction?_sound (found : afterFraction? text = some after) :
    ∃ word, Fraction word ∧ text = word ++ after := by
  unfold afterFraction? at found
  split at found
  · obtain ⟨word, digits, equal⟩ := afterDigits?_sound found
    exact ⟨'.' :: word, .digits digits, by rw [equal]; rfl⟩
  · exact ⟨[], .absent, Option.some.inj found⟩

theorem afterFraction?_append (fraction : Fraction word)
    (ends : ∀ next ∈ after.head?, next.isDigit = false ∧ next ≠ '.') :
    afterFraction? (word ++ after) = some after := by
  cases fraction with
  | absent =>
    rw [List.nil_append]
    unfold afterFraction?
    split
    · exact absurd rfl (ends '.' rfl).2
    · rfl
  | digits digits => exact afterDigits?_append digits fun next head => (ends next head).1

theorem afterExponent?_sound (found : afterExponent? text = some after) :
    ∃ word, Exponent word ∧ text = word ++ after := by
  have signed {mark : Char} {rest : List Char} (letter : mark ∈ ['e', 'E'])
      (read : afterDigits? (afterSign rest) = some after) :
      ∃ word, Exponent word ∧ mark :: rest = word ++ after := by
    obtain ⟨digits, some, equal⟩ := afterDigits?_sound read
    unfold afterSign at equal
    split at equal
    · have plus : ['+'] ∈ [[], ['+'], ['-']] := by decide
      exact ⟨_, .digits letter plus some, by rw [equal]; rfl⟩
    · have minus : ['-'] ∈ [[], ['+'], ['-']] := by decide
      exact ⟨_, .digits letter minus some, by rw [equal]; rfl⟩
    · have none : [] ∈ [[], ['+'], ['-']] := List.mem_cons_self
      exact ⟨_, .digits letter none some, by rw [equal]; rfl⟩
  unfold afterExponent? at found
  split at found
  · exact signed (by decide) found
  · exact signed (by decide) found
  · exact ⟨[], .absent, Option.some.inj found⟩

/-- What may stand behind a number: nothing that goes on with it. -/
def Ends (after : List Char) : Prop :=
  ∀ next ∈ after.head?, next.isDigit = false ∧ next ∉ ['.', 'e', 'E']

theorem afterExponent?_append (exponent : Exponent word) (ends : Ends after) :
    afterExponent? (word ++ after) = some after := by
  cases exponent with
  | absent =>
    rw [List.nil_append]
    unfold afterExponent?
    split
    · exact absurd (by decide) (ends 'e' rfl).2
    · exact absurd (by decide) (ends 'E' rfl).2
    · rfl
  | @digits mark sign digits letter signed some =>
    have read : afterDigits? (afterSign (sign ++ digits ++ after)) = .some after := by
      have unsigned : afterSign (sign ++ (digits ++ after)) = digits ++ after := by
        simp only [List.mem_cons, List.not_mem_nil, or_false] at signed
        rcases signed with rfl | rfl | rfl
        · obtain ⟨filled, all⟩ := some
          cases digits with
          | nil => contradiction
          | cons first rest =>
            rw [List.nil_append]
            unfold afterSign
            split
            · rename_i equal
              rw [(List.cons.inj equal).1] at all
              exact absurd (all '+' List.mem_cons_self) (by decide)
            · rename_i equal
              rw [(List.cons.inj equal).1] at all
              exact absurd (all '-' List.mem_cons_self) (by decide)
            · rfl
        · rfl
        · rfl
      rw [List.append_assoc, unsigned]
      exact afterDigits?_append some fun next head => (ends next head).1
    simp only [List.mem_cons, List.not_mem_nil, or_false] at letter
    rcases letter with rfl | rfl
    · exact read
    · exact read

theorem afterNumber?_sound (found : afterNumber? text = some after) :
    ∃ word, Unsigned word ∧ text = word ++ after := by
  simp only [afterNumber?, Option.bind_eq_bind, Option.bind_eq_some_iff] at found
  obtain ⟨_, read, _, found, rest⟩ := found
  obtain ⟨whole, isWhole, rfl⟩ := afterWhole?_sound read
  obtain ⟨fraction, isFraction, rfl⟩ := afterFraction?_sound found
  obtain ⟨exponent, isExponent, rfl⟩ := afterExponent?_sound rest
  exact ⟨_, .number isWhole isFraction isExponent, by simp only [List.append_assoc]⟩

/-- **A number is read to its end**, where no part of a number comes next. -/
theorem afterNumber?_append (number : Unsigned word) (ends : Ends after) :
    afterNumber? (word ++ after) = some after := by
  obtain ⟨isWhole, isFraction, isExponent⟩ := number
  rename_i whole fraction exponent
  have behindFraction : ∀ next ∈ (exponent ++ after).head?, next.isDigit = false ∧ next ≠ '.' := by
    cases isExponent with
    | absent =>
      intro next head
      obtain ⟨digit, others⟩ := ends next head
      exact ⟨digit, fun point => others (by rw [point]; decide)⟩
    | digits mark _ _ =>
      intro next head
      cases head
      simp only [List.mem_cons, List.not_mem_nil, or_false] at mark
      rcases mark with rfl | rfl <;> decide
  have behindWhole : Stops Char.isDigit (fraction ++ (exponent ++ after)) := by
    cases isFraction with
    | absent => exact fun next head => (behindFraction next head).1
    | digits _ =>
      intro next head
      cases head
      decide
  rw [List.append_assoc, List.append_assoc, afterNumber?, afterWhole?_append isWhole behindWhole]
  show afterFraction? _ >>= afterExponent? = _
  rw [afterFraction?_append isFraction behindFraction]
  exact afterExponent?_append isExponent ends

end Numbers

/-! ### Strings -/

section Strings

variable {text after body : List Char} {items : List StringItem}
  {digit first second third fourth letter character : Char}
  {value one two three four code : Nat}

instance : Decidable (IsHex digit value) :=
  inferInstanceAs (Decidable (_ ∧ _))

theorem toNat_lt_of_hexValue? (found : hexValue? digit = some value) : digit.toNat < 128 := by
  have bound {last : Char} (most : digit ≤ last) (ascii : last.toNat < 128) :
      digit.toNat < 128 :=
    Nat.lt_of_le_of_lt (UInt32.le_iff_toNat_le.mp most) ascii
  unfold hexValue? at found
  split at found
  · rename_i inside
    rw [Char.isDigit, Bool.and_eq_true, decide_eq_true_eq, decide_eq_true_eq] at inside
    have most : digit ≤ '9' := inside.2
    exact bound most (by decide)
  · split at found
    · rename_i inside
      exact bound inside.2 (by decide)
    · split at found
      · rename_i inside
        exact bound inside.2 (by decide)
      · cases found

theorem toNat_lt_of_isHex (hex : IsHex digit value) : digit.toNat < 128 := by
  obtain ⟨small, equal⟩ := hex
  have ascii : ∀ value : Fin 16, (Nat.digitChar value).toNat < 128 := by decide
  unfold Char.toLower at equal
  split at equal
  · rename_i upper
    exact Nat.lt_of_le_of_lt (UInt32.le_iff_toNat_le.mp upper.2) (by decide)
  · rw [equal]
    exact ascii ⟨value, small⟩

/-- **The value of a hexadecimal digit.** -/
theorem hexValue?_eq_some_iff : hexValue? digit = some value ↔ IsHex digit value := by
  -- Both sides are false beyond ASCII, and a table within it.
  have small : ∀ code : Fin 128, ∀ value ∈ hexValue? (Char.ofNat code), value < 16 := by
    decide +kernel
  have ascii : ∀ code : Fin 128, ∀ value : Fin 16,
      hexValue? (Char.ofNat code) = some value.val ↔ IsHex (Char.ofNat code) value := by
    decide +kernel
  constructor
  · intro found
    have code := toNat_lt_of_hexValue? found
    have bound := small ⟨digit.toNat, code⟩ value
    have same := ascii ⟨digit.toNat, code⟩
    rw [Char.ofNat_toNat] at bound same
    exact (same ⟨value, bound found⟩).mp found
  · intro hex
    have same := ascii ⟨digit.toNat, toNat_lt_of_isHex hex⟩ ⟨value, hex.1⟩
    rw [Char.ofNat_toNat] at same
    exact same.mpr hex

theorem unit?_sound (found : unit? first second third fourth = some code) :
    ∃ one two three four, IsHex first one ∧ IsHex second two ∧ IsHex third three ∧
      IsHex fourth four ∧ code = one * 0x1000 + two * 0x100 + three * 0x10 + four := by
  simp only [unit?, Option.bind_eq_bind, Option.bind_eq_some_iff, hexValue?_eq_some_iff,
    Option.some.injEq] at found
  obtain ⟨one, isOne, two, isTwo, three, isThree, four, isFour, equal⟩ := found
  exact ⟨one, two, three, four, isOne, isTwo, isThree, isFour, by omega⟩

theorem unit?_of_isHex (isOne : IsHex first one) (isTwo : IsHex second two)
    (isThree : IsHex third three) (isFour : IsHex fourth four) :
    unit? first second third fourth =
      some (one * 0x1000 + two * 0x100 + three * 0x10 + four) := by
  rw [← hexValue?_eq_some_iff] at isOne isTwo isThree isFour
  rw [unit?, isOne, isTwo, isThree, isFour]
  show some (16 * (16 * (16 * one + two) + three) + four) = _
  congr 1
  omega

/-- **The character of a short escape.** -/
theorem escaped?_eq_some_iff :
    escaped? letter = some character ↔ (letter, character) ∈ shortEscapes := by
  constructor
  · intro found
    unfold escaped? at found
    split at found
    case h_9 => cases found
    all_goals
      cases found
      decide
  · intro member
    simp only [shortEscapes, List.mem_cons, Prod.mk.injEq, List.not_mem_nil, or_false] at member
    rcases member with equal | equal | equal | equal | equal | equal | equal | equal
    all_goals
      rw [equal.1, equal.2]
      rfl

/-- **The items of a string are those of what stands before its closing quote.** -/
theorem items?_sound (found : items? text = some (items, after)) :
    ∃ body, Body body items ∧ text = body ++ '"' :: after := by
  fun_induction items? text generalizing items with
  | case1 => cases found
  | case2 rest =>
    cases found
    exact ⟨[], .nil, rfl⟩
  | case3 first second third fourth rest ih =>
    simp only [Option.bind_eq_bind, Option.bind_eq_some_iff, Option.some.injEq, Prod.mk.injEq,
      Prod.exists] at found
    obtain ⟨code, unit, items, _, read, rfl, rfl⟩ := found
    obtain ⟨one, two, three, four, isOne, isTwo, isThree, isFour, rfl⟩ := unit?_sound unit
    obtain ⟨body, isBody, rfl⟩ := ih read
    exact ⟨_, .unit isOne isTwo isThree isFour isBody, rfl⟩
  | case4 letter rest _ ih =>
    simp only [Option.bind_eq_bind, Option.bind_eq_some_iff, Option.some.injEq, Prod.mk.injEq,
      Prod.exists] at found
    obtain ⟨character, known, items, _, read, rfl, rfl⟩ := found
    obtain ⟨body, isBody, rfl⟩ := ih read
    exact ⟨_, .short (escaped?_eq_some_iff.mp known) isBody, rfl⟩
  | case5 => cases found
  | case6 character rest quote _ _ plain ih =>
    simp only [Option.bind_eq_bind, Option.bind_eq_some_iff, Option.some.injEq, Prod.mk.injEq,
      Prod.exists] at found
    obtain ⟨items, _, read, rfl, rfl⟩ := found
    obtain ⟨body, isBody, rfl⟩ := ih read
    obtain ⟨printable, solidus⟩ := not_or.mp plain
    have itself : character ∉ ['"', '\\'] := by
      simp only [List.mem_cons, List.not_mem_nil, or_false, not_or]
      exact ⟨quote, solidus⟩
    exact ⟨_, .plain itself (Nat.not_lt.mp printable) isBody, rfl⟩

theorem items?_append (isBody : Body body items) :
    items? (body ++ '"' :: after) = some (items, after) := by
  induction isBody with
  | nil => rfl
  | plain itself printable _ ih =>
    simp only [List.mem_cons, List.not_mem_nil, or_false, not_or] at itself
    rw [List.cons_append, items?_plain _ itself.1 itself.2 (Nat.not_lt.mpr printable), ih]
    rfl
  | short member _ ih =>
    have known := escaped?_eq_some_iff.mpr member
    rw [List.cons_append, List.cons_append, items?_letter _ _ known, ih]
    · rfl
    · rintro rfl
      cases known
  | unit isOne isTwo isThree isFour _ ih =>
    simp only [List.cons_append]
    rw [items?, unit?_of_isHex isOne isTwo isThree isFour, ih]
    rfl

end Strings

/-! ### One lexeme -/

section Next

variable {word after rest text : List Char} {lexeme : Lexeme} {lexemes : List Lexeme} {first : Char}

theorem afterWord?_eq_some_iff : afterWord? word text = some after ↔ text = word ++ after := by
  rw [afterWord?]
  split
  · rename_i starts
    obtain ⟨tail, rfl⟩ := List.isPrefixOf_iff_prefix.mp starts
    rw [List.drop_left, Option.some.injEq]
    exact ⟨congrArg _, List.append_cancel_left⟩
  · rename_i differs
    refine ⟨nofun, ?_⟩
    rintro rfl
    exact absurd (List.isPrefixOf_iff_prefix.mpr (List.prefix_append word after)) differs

/-- **The lexeme at the head of a text is spelled there.** -/
theorem next?_sound (found : next? first rest = some (lexeme, after)) :
    ∃ word, Spelling word lexeme ∧ first :: rest = word ++ after := by
  have worded {tail : List Char} (known : first :: tail ∈ words)
      (read : (afterWord? tail rest).map (scalar, ·) = some (lexeme, after)) :
      ∃ word, Spelling word lexeme ∧ first :: rest = word ++ after := by
    simp only [Option.map_eq_some_iff, Prod.mk.injEq] at read
    obtain ⟨_, taken, rfl, rfl⟩ := read
    exact ⟨_, .word known, by rw [afterWord?_eq_some_iff.mp taken]; rfl⟩
  unfold next? at found
  split at found
  case h_7 =>
    simp only [Option.map_eq_some_iff, Prod.mk.injEq, Prod.exists] at found
    obtain ⟨items, _, read, rfl, rfl⟩ := found
    obtain ⟨body, isBody, rfl⟩ := items?_sound read
    exact ⟨_, .quoted isBody, by simp⟩
  case h_8 | h_9 | h_10 => exact worded (by decide) found
  case h_11 =>
    simp only [Option.map_eq_some_iff, Prod.mk.injEq] at found
    obtain ⟨_, read, rfl, rfl⟩ := found
    obtain ⟨word, number, rfl⟩ := afterNumber?_sound read
    exact ⟨_, .negative number, rfl⟩
  case h_12 =>
    simp only [Option.map_eq_some_iff, Prod.mk.injEq] at found
    obtain ⟨_, read, rfl, rfl⟩ := found
    obtain ⟨word, number, equal⟩ := afterNumber?_sound read
    exact ⟨_, .number number, equal⟩
  all_goals
    cases found
    exact ⟨_, .sign (by decide), rfl⟩

/-- A number is not taken for anything else. -/
theorem next?_digit (digit : first.isDigit = true) :
    next? first rest = (afterNumber? (first :: rest)).map (scalar, ·) := by
  unfold next?
  split
  case h_12 => rfl
  all_goals contradiction

/-- The first digit of a number. -/
theorem Unsigned.exists_cons (number : Unsigned word) :
    ∃ first rest, word = first :: rest ∧ first.isDigit = true := by
  obtain ⟨isWhole, -, -⟩ := number
  cases isWhole with
  | zero => exact ⟨_, _, rfl, by decide⟩
  | digits _ digits => exact ⟨_, _, rfl, digits.2 _ List.mem_cons_self⟩

theorem isSpace_iff : isSpace first = true ↔ first ∈ [' ', '\t', '\n', '\r'] := by
  simp only [isSpace, Bool.or_eq_true, decide_eq_true_eq, List.mem_cons, List.not_mem_nil, or_false,
    or_assoc]

/-- White space is no part of a number. -/
theorem foreign_of_isSpace (space : isSpace first = true) :
    first.isDigit = false ∧ first ∉ ['.', 'e', 'E'] := by
  have cases := isSpace_iff.mp space
  simp only [List.mem_cons, List.not_mem_nil, or_false] at cases
  rcases cases with rfl | rfl | rfl | rfl <;> decide

theorem isSpace_of_isDigit (digit : first.isDigit = true) : isSpace first = false :=
  Bool.eq_false_iff.mpr fun space =>
    absurd digit (Bool.eq_false_iff.mp (foreign_of_isSpace space).1)

/-- **A lexeme is read from its spelling**: its first character is no white space, and a number ends
where nothing that goes on with it comes next. -/
theorem Spelling.next? (spelling : Spelling word lexeme) (ends : lexeme = scalar → Ends after) :
    ∃ first rest, word = first :: rest ∧ isSpace first = false ∧
      next? first (rest ++ after) = some (lexeme, after) := by
  cases spelling with
  | sign member =>
    simp only [signs, List.mem_cons, Prod.mk.injEq, List.not_mem_nil, or_false] at member
    rcases member with equal | equal | equal | equal | equal | equal
    all_goals
      rw [equal.1, equal.2]
      exact ⟨_, _, rfl, by decide, rfl⟩
  | word member =>
    have taken (tail : List Char) :
        (afterWord? tail (tail ++ after)).map (scalar, ·) = some (scalar, after) := by
      rw [afterWord?_eq_some_iff.mpr rfl, Option.map_some]
    simp only [words, List.mem_cons, List.not_mem_nil, or_false] at member
    rcases member with rfl | rfl | rfl
    · exact ⟨'n', "ull".toList, rfl, by decide, taken "ull".toList⟩
    · exact ⟨'t', "rue".toList, rfl, by decide, taken "rue".toList⟩
    · exact ⟨'f', "alse".toList, rfl, by decide, taken "alse".toList⟩
  | number number =>
    obtain ⟨first, rest, rfl, digit⟩ := number.exists_cons
    refine ⟨first, rest, rfl, isSpace_of_isDigit digit, ?_⟩
    rw [next?_digit digit, ← List.cons_append, afterNumber?_append number (ends rfl),
      Option.map_some]
  | negative number =>
    refine ⟨_, _, rfl, by decide, ?_⟩
    show (afterNumber? _).map _ = _
    rw [afterNumber?_append number (ends rfl), Option.map_some]
  | quoted isBody =>
    refine ⟨_, _, rfl, by decide, ?_⟩
    show (items? _).map _ = _
    rw [List.append_assoc, List.singleton_append, items?_append isBody, Option.map_some]

end Next

/-! ### All lexemes -/

section Texts

variable {word after rest text : List Char} {lexeme : Lexeme} {lexemes : List Lexeme} {first : Char}

theorem Spells.space (white : first ∈ [' ', '\t', '\n', '\r']) (spells : Spells rest lexemes) :
    Spells (first :: rest) lexemes := by
  cases spells with
  | nil blank => exact .nil (List.forall_mem_cons.mpr ⟨white, blank⟩)
  | cons blank spelling spells =>
    exact .cons (List.forall_mem_cons.mpr ⟨white, blank⟩) spelling spells

/-- **Only lexemes that a text spells are read from it.** -/
theorem ofText?_sound (found : ofText? text = some lexemes) : Spells text lexemes := by
  fun_induction ofText? text generalizing lexemes with
  | case1 =>
    cases found
    exact .nil nofun
  | case2 first rest space ih => exact (ih found).space (isSpace_iff.mp space)
  | case3 => cases found
  | case4 first rest solid lexeme after read ih =>
    obtain ⟨others, remaining, rfl⟩ := Option.map_eq_some_iff.mp found
    obtain ⟨word, spelling, equal⟩ := next?_sound read
    rw [equal]
    have nothing : IsBlank [] := nofun
    exact .cons nothing spelling (ih remaining)

theorem ofText?_blank {blank : List Char} (white : IsBlank blank) :
    ofText? (blank ++ text) = ofText? text := by
  induction blank with
  | nil => rfl
  | cons first rest ih =>
    obtain ⟨space, others⟩ := List.forall_mem_cons.mp white
    rw [List.cons_append, ofText?, if_pos (isSpace_iff.mpr space), ih others]

theorem ends_cons : Ends (first :: rest) ↔ first.isDigit = false ∧ first ∉ ['.', 'e', 'E'] :=
  ⟨fun ends => ends first rfl, fun alone _ head => Option.some.inj head ▸ alone⟩

/-- White space ends a number, and so does every lexeme but a scalar. -/
theorem Spells.ends (spells : Spells text lexemes)
    (other : ∀ next ∈ lexemes.head?, next ≠ scalar) : Ends text := by
  have white {space : Char} (inside : space ∈ [' ', '\t', '\n', '\r']) :=
    foreign_of_isSpace (isSpace_iff.mpr inside)
  have separate : ∀ sign ∈ signs, sign.1.isDigit = false ∧ sign.1 ∉ ['.', 'e', 'E'] := by decide
  cases spells with
  | nil blank => exact fun next head => white (blank next (List.mem_of_mem_head? head))
  | @cons blank _ _ _ _ spaces spelling _ =>
    cases blank with
    | cons space _ => exact ends_cons.mpr (white (spaces space List.mem_cons_self))
    | nil =>
      cases spelling with
      | sign member => exact ends_cons.mpr (separate _ member)
      | quoted _ => exact ends_cons.mpr (by decide)
      | word _ | number _ | negative _ => exact absurd rfl (other _ rfl)

/-- **The lexemes that a text spells are read from it**, where no two scalars stand side by side. -/
theorem Spells.ofText? (spells : Spells text lexemes) (apart : Apart lexemes) :
    ofText? text = some lexemes := by
  induction spells with
  | nil blank =>
    rename_i white
    have read : Lexeme.ofText? (white ++ []) = Lexeme.ofText? [] := ofText?_blank blank
    rwa [List.append_nil, Lexeme.ofText?] at read
  | @cons _ _ _ lexeme _ blank spelling spells ih =>
    obtain ⟨behind, apart⟩ := List.isChain_cons.mp apart
    -- Behind a scalar comes white space or a lexeme that starts with no part of a number.
    have ends : lexeme = scalar → Ends _ := fun equal =>
      spells.ends fun next head => behind next head equal
    obtain ⟨first, rest, rfl, solid, found⟩ := spelling.next? ends
    rw [ofText?_blank blank, List.cons_append, ofText?_of_next? solid found, ih apart,
      Option.map_some]

/-- **The lexemes of a text are those it spells.** -/
theorem ofText?_eq_some_iff (apart : Apart lexemes) :
    Lexeme.ofText? text = some lexemes ↔ Spells text lexemes :=
  ⟨ofText?_sound, fun spells => spells.ofText? apart⟩

end Texts

end Lexeme

end ScientificCalculator
