/-
**Texts and the tokens they spell.**

A text is read as tokens exactly when it is made of their lexemes, one after the other and each as
long as possible, with blanks anywhere in between.

* `Lexeme`: the characters of one token, in front of what comes next.
* `Spells`: the texts of a list of tokens.
* `exists_lexeme_of_next`, `Lexeme.next`: one token is read where its lexeme stands.
* `tokenize_eq_ok_iff`: the tokens of a text are those it spells.
* `Spells.foreign_notMem`, `Spells.sign_notMem`: no mark is part of a text of tokens.
* `Spells.exists_literal`: its numbers are the values of literals.
* `Spells.of_append`: a text of tokens, cut where no token goes on.
-/

import ScientificCalculator.Proofs.Canonical.Marks
import ScientificCalculator.Proofs.Canonical.Typed
import ScientificCalculator.Proofs.Token.Lexer

namespace ScientificCalculator.Token

open Text (EndsWithout Stops)

/-- **A lexeme**: the characters of a token, as they are read in front of a text. -/
inductive Lexeme : List Char → Token → List Char → Prop
  | symbol {sign : Char} {token : Token} {rest : List Char} (made : ofSymbol? sign = some token)
      (single : sign = '*' → rest.head? ≠ some '*') : Lexeme [sign] token rest
  | power {rest : List Char} : Lexeme ['*', '*'] (op .pow) rest
  | number {first : Char} {more rest : List Char} {literal : Literal}
      (all : ∀ character ∈ first :: more, startsNumber character = true)
      (cut : Literal.split (first :: (more ++ rest)) = (literal, rest))
      (present : ¬(literal.whole = [] ∧ literal.fraction = [])) :
      Lexeme (first :: more) (num literal.toFloat) rest
  | word (found : Func) {rest : List Char} (ends : Stops isWordPart rest) :
      Lexeme found.name.toList (func found) rest

/-- **A text spells tokens** when it is made of their lexemes and of blanks. -/
inductive Spells : List Char → List Token → Prop
  | nil : Spells [] []
  | blank {first : Char} {rest : List Char} {written : List Token}
      (blank : Text.isBlank first = true) (others : Spells rest written) :
      Spells (first :: rest) written
  | lexeme {characters rest : List Char} {token : Token} {written : List Token}
      (lexeme : Lexeme characters token rest) (others : Spells rest written) :
      Spells (characters ++ rest) (token :: written)

section Classes

variable {first : Char}

/-- Symbols are not blank and start neither a number nor a word. -/
theorem solid_of_ofSymbol? {token : Token} (made : ofSymbol? first = some token) :
    Text.isBlank first = false ∧ startsNumber first = false ∧ first.isAlpha = false := by
  unfold ofSymbol? at made
  split at made <;> first | decide | cases made

theorem solid_of_startsNumber (starts : startsNumber first = true) :
    Text.isBlank first = false ∧ ofSymbol? first = none := by
  refine ⟨Bool.eq_false_iff.mpr fun blank => ?_, ?_⟩
  · have free := Text.not_sticks_of_isBoundary (Text.isBoundary_of_isBlank blank)
    simp [startsNumber, Text.isDigit_of_not_sticks free, Text.ne_point_of_not_sticks free] at starts
  · cases made : ofSymbol? first with
    | none => rfl
    | some token => exact absurd starts (by simp [(solid_of_ofSymbol? made).2.1])

/-- Letters start words only. -/
theorem solid_of_isAlpha (letter : first.isAlpha = true) :
    Text.isBlank first = false ∧ ofSymbol? first = none ∧ startsNumber first = false := by
  refine ⟨Bool.eq_false_iff.mpr fun blank => ?_, ?_, Bool.eq_false_iff.mpr fun starts => ?_⟩
  · have free := Text.not_sticks_of_isBoundary (Text.isBoundary_of_isBlank blank)
    rw [Text.isAlpha_of_not_sticks free] at letter
    cases letter
  · cases made : ofSymbol? first with
    | none => rfl
    | some token => exact absurd letter (by simp [(solid_of_ofSymbol? made).2.2])
  · rw [startsNumber, Bool.or_eq_true, decide_eq_true_eq] at starts
    rcases starts with digit | rfl
    · rw [Canonical.isAlpha_of_isDigit digit] at letter
      cases letter
    · cases letter

end Classes

section Next

variable {first : Char} {rest left : List Char} {token : Token}

/-- What a literal takes is made of digits and points. -/
theorem exists_taken_of_split (input : List Char) :
    ∃ taken, input = taken ++ (Literal.split input).2 ∧
      ∀ character ∈ taken, startsNumber character = true := by
  have digits (text : List Char) :
      ∀ character ∈ text.takeWhile Char.isDigit, startsNumber character = true := by
    intro character member
    rw [startsNumber, List.mem_takeWhile_imp member, Bool.true_or]
  by_cases point : ∃ rest, input.dropWhile Char.isDigit = '.' :: rest
  · obtain ⟨rest, point⟩ := point
    refine ⟨input.takeWhile Char.isDigit ++ '.' :: rest.takeWhile Char.isDigit, ?_, ?_⟩
    · simp only [Literal.split, point, List.append_assoc, List.cons_append,
        List.takeWhile_append_dropWhile]
      rw [← point, List.takeWhile_append_dropWhile]
    · exact List.forall_mem_append.mpr
        ⟨digits input, List.forall_mem_cons.mpr ⟨by decide, digits rest⟩⟩
  · refine ⟨input.takeWhile Char.isDigit, ?_, digits input⟩
    rw [Literal.split]
    split
    · rename_i rest equal
      exact absurd ⟨rest, equal⟩ point
    · exact (List.takeWhile_append_dropWhile).symm

/-- A name is a letter and more parts of a word. -/
theorem name_eq_cons (found : Func) :
    ∃ first more, found.name.toList = first :: more ∧
      (Text.isBlank first = false ∧ ofSymbol? first = none ∧ startsNumber first = false ∧
        first.isAlpha = true) ∧ ∀ character ∈ more, isWordPart character = true := by
  cases found <;> exact ⟨_, _, rfl, by decide, List.all_eq_true.mp rfl⟩

/-- The token at the head of a text is read from its lexeme. -/
theorem exists_lexeme_of_next (read : next first rest = .ok (token, left)) :
    ∃ more, rest = more ++ left ∧ Lexeme (first :: more) token left := by
  unfold next at read
  split at read
  · rename_i star
    obtain ⟨rfl, rfl⟩ := Prod.mk.inj (Except.ok.inj read)
    obtain ⟨rfl, second⟩ := star
    obtain ⟨others, rfl⟩ := List.head?_eq_some_iff.mp second
    exact ⟨['*'], rfl, .power⟩
  · rename_i single
    split at read
    · rename_i symbol made
      obtain ⟨rfl, rfl⟩ := Prod.mk.inj (Except.ok.inj read)
      exact ⟨[], rfl, .symbol made fun star second => single ⟨star, second⟩⟩
    · split at read
      · rename_i starts
        obtain ⟨taken, equal, all⟩ := exists_taken_of_split (first :: rest)
        unfold number at read
        simp only at read
        split at read
        · cases read
        · rename_i present
          obtain ⟨rfl, rfl⟩ := Prod.mk.inj (Except.ok.inj read)
          have shorter : (Literal.split (first :: rest)).2.length ≤ rest.length :=
            Literal.length_split_cons_le starts
          cases taken with
          | nil =>
            rw [List.nil_append] at equal
            rw [← equal, List.length_cons] at shorter
            omega
          | cons head more =>
            rw [List.cons_append] at equal
            obtain ⟨rfl, same⟩ := List.cons.inj equal
            exact ⟨more, same, .number all (by rw [← same]) present⟩
      · split at read
        · unfold word at read
          simp only at read
          split at read
          · rename_i found known
            obtain ⟨rfl, rfl⟩ := Prod.mk.inj (Except.ok.inj read)
            have named : found.name.toList = first :: rest.takeWhile isWordPart := by
              have same := List.find?_some known
              rw [of_decide_eq_true same, String.toList_ofList]
            refine ⟨rest.takeWhile isWordPart, List.takeWhile_append_dropWhile.symm, ?_⟩
            rw [← named]
            exact .word found (Text.stops_dropWhile isWordPart rest)
          · cases read
        · cases read

/-- **A lexeme is read as its token**, and what comes next is left. -/
theorem Lexeme.next {characters : List Char} (lexeme : Lexeme characters token left) :
    ∃ first more, characters = first :: more ∧ Text.isBlank first = false ∧
      Token.next first (more ++ left) = .ok (token, left) := by
  cases lexeme with
  | symbol made single =>
    refine ⟨_, [], rfl, (solid_of_ofSymbol? made).1, ?_⟩
    rw [Token.next, if_neg fun star => single star.1 star.2, made]
    rfl
  | power => exact ⟨'*', ['*'], rfl, by decide, rfl⟩
  | @number first more _ literal all cut present =>
    have starts := all first List.mem_cons_self
    obtain ⟨solid, none⟩ := solid_of_startsNumber starts
    have star : first ≠ '*' := by
      rintro rfl
      exact absurd starts (by decide)
    refine ⟨first, more, rfl, solid, ?_⟩
    rw [Token.next, if_neg fun both => star both.1, none, if_pos starts, Token.number, cut]
    exact if_neg present
  | word found ends =>
    obtain ⟨first, more, named, ⟨solid, none, starts, letter⟩, parts⟩ := name_eq_cons found
    have star : first ≠ '*' := by
      rintro rfl
      exact absurd letter (by decide)
    have taken : (more ++ left).takeWhile isWordPart = more := by
      rw [Text.takeWhile_append more ends, List.takeWhile_eq_self_iff.mpr parts]
    have dropped : (more ++ left).dropWhile isWordPart = left := by
      rw [Text.dropWhile_append more ends, List.dropWhile_eq_nil_iff.mpr parts, List.nil_append]
    refine ⟨first, more, named, solid, ?_⟩
    rw [Token.next, if_neg fun both => star both.1, none, if_neg (by simp [starts]), if_pos letter,
      Token.word, taken, dropped, ← named, String.ofList_toList, Func.ofName?_name]

end Next

section Spelling

/-- **A lexeme in front of a text** is one more token. -/
theorem tokenize_lexeme {characters rest : List Char} {token : Token}
    (lexeme : Lexeme characters token rest) :
    tokenize (characters ++ rest) = (tokenize rest).map (token :: ·) := by
  obtain ⟨first, more, rfl, solid, read⟩ := lexeme.next
  rw [List.cons_append, tokenize_next solid, read]

theorem spells_of_tokenize {text : List Char} {written : List Token}
    (read : tokenize text = .ok written) : Spells text written := by
  cases text with
  | nil =>
    rw [tokenize] at read
    obtain rfl := Except.ok.inj read
    exact .nil
  | cons first rest =>
    by_cases blank : Text.isBlank first = true
    · rw [tokenize_blank blank] at read
      exact .blank blank (spells_of_tokenize read)
    · rw [tokenize_next (Bool.eq_false_iff.mpr blank)] at read
      cases outcome : next first rest with
      | error cause =>
        rw [outcome] at read
        cases read
      | ok result =>
        obtain ⟨token, left⟩ := result
        have shorter : left.length < (first :: rest).length :=
          Nat.lt_succ_of_le (length_next_le outcome)
        rw [outcome] at read
        obtain ⟨others, remaining, rfl⟩ := map_eq_ok_iff.mp read
        obtain ⟨more, rfl, lexeme⟩ := exists_lexeme_of_next outcome
        exact .lexeme lexeme (spells_of_tokenize remaining)
termination_by text.length
decreasing_by
  · subst_vars
    exact Nat.lt_succ_self _
  · subst_vars
    exact shorter

variable {text : List Char} {written : List Token}

/-- **The tokens of a text are those it spells.** -/
theorem tokenize_eq_ok_iff : tokenize text = .ok written ↔ Spells text written := by
  refine ⟨spells_of_tokenize, fun spells => ?_⟩
  induction spells with
  | nil => rw [tokenize]
  | blank blank _ ih => rw [tokenize_blank blank, ih]
  | lexeme lexeme _ ih =>
    rw [tokenize_lexeme lexeme, ih]
    rfl

/-- The character is no blank and part of no token. -/
def isForeign (character : Char) : Bool :=
  !Text.isBlank character && (ofSymbol? character).isNone && !startsNumber character &&
    Func.all.all fun func => !func.name.toList.contains character

/-- **A character of no token** is not in a text of tokens. -/
theorem Spells.foreign_notMem (spells : Spells text written) {character : Char}
    (foreign : isForeign character = true) : character ∉ text := by
  simp only [isForeign, Bool.and_eq_true, Bool.not_eq_true'] at foreign
  obtain ⟨⟨⟨solid, single⟩, number⟩, names⟩ := foreign
  induction spells with
  | nil => exact List.not_mem_nil
  | blank blank _ ih =>
    refine not_or.mpr ⟨?_, ih⟩ ∘ List.mem_cons.mp
    rintro rfl
    exact Bool.noConfusion (solid.symm.trans blank)
  | lexeme lexeme _ ih =>
    refine not_or.mpr ⟨fun member => ?_, ih⟩ ∘ List.mem_append.mp
    cases lexeme with
    | symbol made _ =>
      obtain rfl := List.mem_singleton.mp member
      rw [made] at single
      cases single
    | power =>
      obtain rfl : character = '*' := by simpa using member
      cases single
    | number all _ _ => exact Bool.noConfusion (number.symm.trans (all character member))
    | word found _ =>
      have none := List.all_eq_true.mp names found (by cases found <;> decide)
      rw [List.contains_iff_mem.mpr member] at none
      cases none

/-- **No mark is part of a text of tokens.** -/
theorem Spells.sign_notMem (spells : Spells text written) (mark : Canonical.Mark) :
    mark.sign ∉ text :=
  spells.foreign_notMem (by cases mark <;> decide)

/-- **The numbers of a text are the values of literals.** -/
theorem Spells.exists_literal (spells : Spells text written) {value : Float}
    (member : num value ∈ written) : ∃ literal : Literal, value = literal.toFloat := by
  induction spells with
  | nil => cases member
  | blank _ _ ih => exact ih member
  | lexeme lexeme _ ih =>
    rcases List.mem_cons.mp member with equal | inside
    · cases lexeme with
      | symbol made _ =>
        subst equal
        unfold ofSymbol? at made
        split at made <;> cases made
      | power => cases equal
      | number _ _ _ => exact ⟨_, Token.num.inj equal⟩
      | word found _ => cases equal
    · exact ih inside

end Spelling

section Cut

/-- A character that tokens of several characters are made of, the power sign apart. -/
def isPart (character : Char) : Bool :=
  isWordPart character || startsNumber character

variable {before after : List Char}

/-- A lexeme in front of a text is one in front of its first part, unless a number or a word ends
there. -/
theorem Lexeme.of_append {characters : List Char} {token : Token}
    (lexeme : Lexeme characters token (before ++ after))
    (ends : EndsWithout isPart (characters ++ before)) : Lexeme characters token before := by
  cases lexeme with
  | symbol made single =>
    refine .symbol made fun star second => single star ?_
    rw [List.head?_append, second]
    rfl
  | power => exact .power
  | @number first more _ literal all cut present =>
    have numbers : EndsWithout startsNumber (first :: (more ++ before)) := by
      intro character member
      have none := ends character member
      rw [isPart, Bool.or_eq_false_iff] at none
      exact none.2
    have parts := Literal.split_append_of_endsWithout numbers (List.cons_ne_nil _ _) after
    rw [List.cons_append, List.append_assoc, cut, Prod.mk.injEq] at parts
    refine .number all (Prod.ext parts.1.symm (List.append_cancel_right parts.2.symm)) present
  | word found stops =>
    refine .word found fun character member => stops character ?_
    rw [List.head?_append, Option.mem_def.mp member]
    rfl

/-- All characters of a lexeme of several characters are parts of a token, the power sign apart. -/
theorem Lexeme.isPart_of_mem {characters : List Char} {token : Token} {rest : List Char}
    (lexeme : Lexeme characters token rest) (several : 1 < characters.length)
    (power : token ≠ .op .pow) {character : Char} (member : character ∈ characters) :
    isPart character = true := by
  cases lexeme with
  | symbol _ _ => exact absurd several (Nat.lt_irrefl 1)
  | power => exact absurd rfl power
  | number all _ _ => rw [isPart, all character member, Bool.or_true]
  | word found _ =>
    have parts : found.name.toList.all isWordPart = true := by cases found <;> decide
    rw [isPart, List.all_eq_true.mp parts character member, Bool.true_or]

theorem Lexeme.eq_of_power {characters rest : List Char}
    (lexeme : Lexeme characters (.op .pow) rest) : characters = ['*', '*'] := by
  cases lexeme with
  | symbol made _ =>
    unfold ofSymbol? at made
    split at made <;> cases made
  | power => rfl

/-- No lexeme goes on behind a character that ends every token, unless a power sign is cut. -/
theorem Lexeme.not_across {inside rest : List Char} {token : Token}
    (lexeme : Lexeme (before ++ inside) token rest) (present : before ≠ [])
    (ends : EndsWithout isPart before) (star : inside.head? ≠ some '*') : inside = [] := by
  by_contra more
  have several : 1 < (before ++ inside).length := by
    rw [List.length_append]
    exact Nat.add_le_add (List.length_pos_iff.mpr present) (List.length_pos_iff.mpr more)
  by_cases power : token = .op .pow
  · subst power
    have sign : ∀ character ∈ before ++ inside, character = '*' := by simp [lexeme.eq_of_power]
    obtain ⟨head, others, rfl⟩ := List.exists_cons_of_ne_nil more
    exact star (congrArg some (sign head (by simp)))
  · obtain ⟨front, last, rfl⟩ := List.eq_nil_or_concat before |>.resolve_left present
    rw [List.concat_eq_append] at lexeme ends several
    have part := Text.endsWithout_concat.mp ends
    rw [lexeme.isPart_of_mem several power (by simp)] at part
    cases part

/-- **A text of tokens is cut** behind a character that no token goes on with. -/
theorem Spells.of_append {written : List Token} (spells : Spells (before ++ after) written)
    (ends : EndsWithout isPart before) (star : after.head? ≠ some '*') :
    ∃ first second, Spells before first ∧ Spells after second ∧ written = first ++ second := by
  generalize whole : before ++ after = text at spells
  induction spells generalizing before with
  | nil =>
    obtain ⟨rfl, rfl⟩ := List.append_eq_nil_iff.mp whole
    exact ⟨[], [], .nil, .nil, rfl⟩
  | @blank first rest written blank others ih =>
    cases before with
    | nil =>
      rw [List.nil_append] at whole
      exact ⟨[], written, .nil, whole ▸ .blank blank others, rfl⟩
    | cons head before =>
      obtain ⟨rfl, inner⟩ := List.cons.inj whole
      obtain ⟨front, back, one, two, equal⟩ := ih (EndsWithout.of_append [head] ends) inner
      exact ⟨front, back, .blank blank one, two, equal⟩
  | @lexeme characters rest token written lexeme others ih =>
    by_cases present : before = []
    · subst present
      rw [List.nil_append] at whole
      exact ⟨[], token :: written, .nil, whole ▸ .lexeme lexeme others, rfl⟩
    · have within {between : List Char} (one : before = characters ++ between)
          (two : between ++ after = rest) :
          ∃ first second, Spells before first ∧ Spells after second ∧
            token :: written = first ++ second := by
        subst one two
        obtain ⟨front, back, one, two, rfl⟩ := ih (ends.of_append characters) rfl
        exact ⟨token :: front, back, .lexeme (lexeme.of_append ends) one, two, rfl⟩
      rcases List.append_eq_append_iff.mp whole with ⟨inside, across, equal⟩ | ⟨between, one, two⟩
      · rw [across] at lexeme
        have none := lexeme.not_across present ends ?_
        · subst none
          exact @within [] (by simpa using across.symm) (by simpa using equal)
        · intro second
          apply star
          rw [equal, List.head?_append, second]
          rfl
      · exact within one two.symm

end Cut

end ScientificCalculator.Token
