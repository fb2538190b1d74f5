/-
**The canonical text of a canonical text.**

What is written puts characters side by side that were apart: digits behind a name, a name behind a
word, spaces beside a number. None of this makes a constant, a power, a root in front of an argument
or the typed name of a function, so nothing is left to rewrite.

* `Kept`: the texts in which nothing is left to rewrite.
* `ofTypedAfter_of_kept`: such a text is written as it is.
* `exists_head_of_symbol`, `head?_ofTypedAfter_ne`: the character that is written first.
* `kept_ofTypedAfter`: in what is written nothing is left to rewrite.
* `ofTyped_ofTyped`: a canonical text is its own canonical text.
-/

import ScientificCalculator.Proofs.Canonical.Typed

namespace ScientificCalculator.Canonical

open Text (Stops stops_cons stops_nil)

section Kept

/-- **Nothing is left to rewrite in the text**: it is made of characters that are copied, of roots
that open no argument and of words that are written as they are in front of what comes next. -/
inductive Kept : List Char → Prop
  | nil : Kept []
  | copied {first : Char} {rest : List Char} (copied : isCopied first = true)
      (others : Kept rest) : Kept (first :: rest)
  | root {rest : List Char} (alone : rest.head? ≠ some '(') (others : Kept rest) :
      Kept ('√' :: rest)
  | word {letters rest : List Char} (present : letters ≠ [])
      (all : ∀ letter ∈ letters, letter.isAlpha = true) (ends : Stops Char.isAlpha rest)
      (kept : ∀ before, ofWord letters before rest.head? = letters) (others : Kept rest) :
      Kept (letters ++ rest)

/-- **A text in which nothing is left to rewrite is written as it is**, whatever stands before it. -/
theorem ofTypedAfter_of_kept {text : List Char} (kept : Kept text) (before : Option Char) :
    ofTypedAfter before text = text := by
  induction kept generalizing before with
  | nil => rw [ofTypedAfter]
  | copied copied _ ih => rw [ofTypedAfter_of_isCopied copied, ih]
  | root alone _ ih =>
    rw [ofTypedAfter, if_neg (by decide)]
    dsimp only
    rw [ofSymbol, if_neg (by decide), if_neg (by decide), if_neg fun argument => alone argument.2,
      ih]
    rfl
  | word present all ends kept _ ih => rw [ofTypedAfter_letters present all ends, kept, ih]

/-- A run of characters that are copied, in front of such a text. -/
theorem Kept.run {run rest : List Char} (all : ∀ character ∈ run, isCopied character = true)
    (others : Kept rest) : Kept (run ++ rest) := by
  induction run with
  | nil => exact others
  | cons first more ih =>
    obtain ⟨copied, remaining⟩ := List.forall_mem_cons.mp all
    exact .copied copied (ih remaining)

theorem isCopied_piLiteral : ∀ character ∈ piLiteral, isCopied character = true :=
  List.all_eq_true.mp rfl

theorem isCopied_eulerLiteral : ∀ character ∈ eulerLiteral, isCopied character = true :=
  List.all_eq_true.mp rfl

/-- A constant that is set off is copied. -/
theorem Kept.setOff {literal rest : List Char}
    (all : ∀ character ∈ literal, isCopied character = true) (others : Kept rest)
    (before after : Option Char) : Kept (setOff literal before after ++ rest) := by
  have gaps (neighbour : Option Char) : ∀ character ∈ gap neighbour, isCopied character = true := by
    intro character member
    rw [gap] at member
    split at member
    · rw [List.mem_singleton.mp member]
      decide
    · cases member
  exact others.run (List.forall_mem_append.mpr
    ⟨List.forall_mem_append.mpr ⟨gaps before, all⟩, gaps after⟩)

/-- What a canonical name stands for as a typed one has this name. -/
theorem name_of_ofTyped?_name {func found : Func}
    (known : Func.ofTyped? func.name = some found) : found.name = func.name := by
  revert known
  cases func <;> cases found <;> decide

theorem ofWord_name (func : Func) (before after : Option Char) :
    ofWord func.name.toList before after = func.name.toList := by
  have constant : func.name.toList ≠ ['e'] := by cases func <;> decide
  rw [ofWord, if_neg constant, String.ofList_toList]
  split
  · split
    · rename_i found known
      rw [name_of_ofTyped?_name known]
    · rfl
  · rfl

/-- **A canonical name is kept.** The one name with digits is a word and a number. -/
theorem Kept.name (func : Func) {rest : List Char} (ends : Stops Char.isAlpha rest)
    (others : Kept rest) : Kept (func.name.toList ++ rest) := by
  by_cases number : func = .log10
  · subst number
    have letters : ['l', 'o', 'g'].all Char.isAlpha = true := by decide
    have digits : ['1', '0'].all isCopied = true := by decide
    have stops : Stops Char.isAlpha ('1' :: '0' :: rest) := stops_cons.mpr (by decide)
    have word (before : Option Char) : ofWord ['l', 'o', 'g'] before (some '1') = ['l', 'o', 'g'] :=
      rfl
    show Kept (['l', 'o', 'g'] ++ (['1', '0'] ++ rest))
    exact .word (List.cons_ne_nil _ _) (List.all_eq_true.mp letters) stops word
      (others.run (List.all_eq_true.mp digits))
  · have present : func.name.toList ≠ [] := by cases func <;> decide
    have letters : func.name.toList.all Char.isAlpha = true := by
      revert number
      cases func <;> decide
    exact .word present (List.all_eq_true.mp letters) ends
      (fun before => ofWord_name func before rest.head?) others

end Kept

section Heads

/-- What is written for a constant starts with a space or a digit. -/
theorem exists_head_setOff {literal : List Char} {digit : Char} {more : List Char}
    (number : literal = digit :: more) (before after : Option Char) :
    ∃ head tail, setOff literal before after = head :: tail ∧ (head = ' ' ∨ head = digit) := by
  rw [setOff, gap, number]
  split
  · exact ⟨' ', _, rfl, Or.inl rfl⟩
  · exact ⟨digit, _, rfl, Or.inr rfl⟩

/-- **What is written for a symbol that is no constant** starts with this symbol, unless it is a
power or a root in front of an argument. -/
theorem exists_head_of_symbol {first : Char} (letter : first.isAlpha = false)
    (constant : first ≠ 'π') (before : Option Char) (rest : List Char) :
    ∃ head tail, ofTypedAfter before (first :: rest) = head :: tail ∧
      (head = first ∨ first = '^' ∧ head = '*' ∨
        first = '√' ∧ rest.head? = some '(' ∧ head = 's') := by
  rw [ofTypedAfter, if_neg (by simp [letter]), ofSymbol, if_neg constant]
  split
  · rename_i power
    exact ⟨'*', _, rfl, Or.inr (Or.inl ⟨power, rfl⟩)⟩
  · split
    · rename_i root
      exact ⟨'s', _, rfl, Or.inr (Or.inr ⟨root.1, root.2, rfl⟩)⟩
    · exact ⟨first, _, rfl, Or.inl rfl⟩

/-- What is written for a word does not open an argument. -/
theorem head?_ofWord_ne {first : Char} (letter : first.isAlpha = true) (more : List Char)
    (before after : Option Char) (rest : List Char) :
    (ofWord (first :: more) before after ++ rest).head? ≠ some '(' := by
  have word : ((first :: more) ++ rest).head? ≠ some '(' := by
    intro equal
    rw [Option.some.inj equal] at letter
    exact absurd letter (by decide)
  rw [ofWord]
  split
  · obtain ⟨head, tail, equal, start⟩ :=
      exists_head_setOff (rfl : eulerLiteral = '2' :: _) before after
    rw [equal, List.cons_append, List.head?_cons]
    rcases start with rfl | rfl <;> decide
  · split
    · split
      · rename_i found _
        have name : found.name.toList.head?.any Char.isAlpha = true := by cases found <;> decide
        rw [List.head?_append]
        cases start : found.name.toList.head? with
        | none =>
          rw [start] at name
          cases name
        | some head =>
          rw [start] at name
          rintro equal
          obtain rfl := Option.some.inj equal
          exact absurd name (by decide)
      · exact word
    · exact word

/-- **Only an opening parenthesis opens an argument** in what is written. -/
theorem head?_ofTypedAfter_ne {text : List Char} (other : text.head? ≠ some '(')
    (before : Option Char) : (ofTypedAfter before text).head? ≠ some '(' := by
  cases text with
  | nil =>
    rw [ofTypedAfter]
    decide
  | cons first rest =>
    by_cases letter : first.isAlpha = true
    · rw [ofTypedAfter, if_pos letter]
      exact head?_ofWord_ne letter _ before _ _
    · by_cases constant : first = 'π'
      · subst constant
        obtain ⟨head, tail, equal, start⟩ :=
          exists_head_setOff (rfl : piLiteral = '3' :: _) before rest.head?
        rw [ofTypedAfter, if_neg letter, ofSymbol, if_pos rfl, equal, List.cons_append,
          List.head?_cons]
        rcases start with rfl | rfl <;> decide
      · obtain ⟨head, tail, equal, start⟩ :=
          exists_head_of_symbol (Bool.eq_false_iff.mpr letter) constant before rest
        rw [equal, List.head?_cons]
        rcases start with rfl | ⟨-, rfl⟩ | ⟨-, -, rfl⟩
        · exact other
        · decide
        · decide

/-- **No letter is written in front** where none stands there, but for the name of a root. -/
theorem stops_ofTypedAfter {text : List Char} (ends : Stops Char.isAlpha text)
    (root : ∀ argument, text ≠ '√' :: '(' :: argument) (before : Option Char) :
    Stops Char.isAlpha (ofTypedAfter before text) := by
  cases text with
  | nil =>
    rw [ofTypedAfter]
    exact stops_nil
  | cons first rest =>
    have letter := stops_cons.mp ends
    by_cases constant : first = 'π'
    · subst constant
      obtain ⟨head, tail, equal, start⟩ :=
        exists_head_setOff (rfl : piLiteral = '3' :: _) before rest.head?
      rw [ofTypedAfter, if_neg (by simp [letter]), ofSymbol, if_pos rfl, equal]
      refine stops_cons.mpr ?_
      rcases start with rfl | rfl <;> decide
    · obtain ⟨head, tail, equal, start⟩ := exists_head_of_symbol letter constant before rest
      rw [equal, stops_cons]
      rcases start with rfl | ⟨-, rfl⟩ | ⟨rfl, opens, -⟩
      · exact letter
      · decide
      · obtain ⟨argument, rfl⟩ := List.head?_eq_some_iff.mp opens
        exact absurd rfl (root argument)

/-- No letter is written in front of an argument. -/
theorem stops_ofTypedAfter_lparen {text : List Char} (opens : text.head? = some '(')
    (before : Option Char) : Stops Char.isAlpha (ofTypedAfter before text) := by
  refine stops_ofTypedAfter (Text.stops_of_head? opens (by decide)) (fun argument root => ?_) before
  rw [root] at opens
  exact absurd (Option.some.inj opens) (by decide)

end Heads

section Words

/-- A word that is no typed name, or opens no argument, is written as it is. -/
theorem ofWord_eq_self {word : List Char} {after : Option Char} (constant : word ≠ ['e'])
    (name : after = some '(' → Func.ofTyped? (String.ofList word) = none) (before : Option Char) :
    ofWord word before after = word := by
  rw [ofWord, if_neg constant]
  split
  · rename_i argument
    rw [name argument]
  · rfl

/-- Typed names are short. -/
theorem ofTyped?_eq_none_of_length {word : List Char} (long : 4 < word.length) :
    Func.ofTyped? (String.ofList word) = none := by
  refine List.find?_eq_none.mpr fun func _ same => ?_
  have letters : func.typed.toList = word := by
    rw [of_decide_eq_true same, String.toList_ofList]
  have short : func.typed.toList.length ≤ 4 := by cases func <;> decide
  rw [letters] at short
  omega

/-- What is written for a root in front of an argument. -/
theorem ofTypedAfter_root (before : Option Char) (rest : List Char) :
    ofTypedAfter before ('√' :: '(' :: rest) =
      Func.sqrt.name.toList ++ ofTypedAfter (some 't') ('(' :: rest) := by
  rw [ofTypedAfter, if_neg (by decide)]
  rfl

variable {letters rest : List Char} (present : letters ≠ [])
  (all : ∀ letter ∈ letters, letter.isAlpha = true)

include present all

/-- **A word in front of a root with its argument** goes on into the name that is written for the
root. -/
theorem Kept.word_root (others : Kept rest) (opens : rest.head? = some '(') :
    Kept (letters ++ (Func.sqrt.name.toList ++ rest)) := by
  have name : Func.sqrt.name.toList.all Char.isAlpha = true := by decide
  have long : 4 < (letters ++ Func.sqrt.name.toList).length := by
    rw [List.length_append]
    exact Nat.add_le_add (List.length_pos_iff.mpr present) (Nat.le_refl 4)
  rw [← List.append_assoc]
  refine .word (List.append_ne_nil_of_left_ne_nil present _)
    (List.forall_mem_append.mpr ⟨all, List.all_eq_true.mp name⟩)
    (Text.stops_of_head? opens (by decide)) (fun before => ?_) others
  refine ofWord_eq_self (fun constant => ?_) (fun _ => ofTyped?_eq_none_of_length long) before
  rw [constant] at long
  exact absurd long (by decide)

/-- **A word in front of what is written for a text.** -/
theorem Kept.word_written (ends : Stops Char.isAlpha rest) (constant : letters ≠ ['e'])
    (name : rest.head? = some '(' → Func.ofTyped? (String.ofList letters) = none)
    (others : ∀ text before, text.length ≤ rest.length → Kept (ofTypedAfter before text))
    (before : Option Char) : Kept (letters ++ ofTypedAfter before rest) := by
  by_cases root : ∃ argument, rest = '√' :: '(' :: argument
  · obtain ⟨argument, rfl⟩ := root
    rw [ofTypedAfter_root]
    refine Kept.word_root present all (others _ _ (Nat.le_succ _)) ?_
    rw [ofTypedAfter_of_isCopied (by decide)]
    rfl
  · have stops := stops_ofTypedAfter ends (not_exists.mp root) before
    refine .word present all stops (fun last => ofWord_eq_self constant (fun opens => ?_) last)
      (others _ _ (Nat.le_refl _))
    exact name (Decidable.by_contra fun other => head?_ofTypedAfter_ne other before opens)

/-- **What is written for a word**, in front of what is written for the text behind it. -/
theorem Kept.ofWord (ends : Stops Char.isAlpha rest)
    (others : ∀ text before, text.length ≤ rest.length → Kept (ofTypedAfter before text))
    (before last : Option Char) :
    Kept (ofWord letters before rest.head? ++ ofTypedAfter last rest) := by
  by_cases constant : letters = ['e']
  · rw [Canonical.ofWord, if_pos constant]
    exact .setOff isCopied_eulerLiteral (others _ _ (Nat.le_refl _)) _ _
  · by_cases known : rest.head? = some '(' ∧ ∃ func, Func.ofTyped? (String.ofList letters) = some func
    · obtain ⟨opens, func, found⟩ := known
      rw [Canonical.ofWord, if_neg constant, if_pos opens, found]
      exact .name func (stops_ofTypedAfter_lparen opens last) (others _ _ (Nat.le_refl _))
    · have name (opens : rest.head? = some '(') : Func.ofTyped? (String.ofList letters) = none :=
        Option.eq_none_iff_forall_ne_some.mpr fun func found => known ⟨opens, func, found⟩
      rw [ofWord_eq_self constant name]
      exact .word_written present all ends constant name others last

end Words

section Symbols

/-- **What is written for a symbol**, in front of what is written for the text behind it. -/
theorem Kept.ofSymbol {first : Char} {rest : List Char} (letter : first.isAlpha = false)
    (others : ∀ before, Kept (ofTypedAfter before rest)) (before last : Option Char) :
    Kept (ofSymbol first before rest.head? ++ ofTypedAfter last rest) := by
  rw [Canonical.ofSymbol]
  split
  · exact .setOff isCopied_piLiteral (others last) _ _
  · rename_i constant
    split
    · exact (others last).run (List.all_eq_true.mp rfl)
    · rename_i power
      split
      · rename_i root
        exact .name .sqrt (stops_ofTypedAfter_lparen root.2 last) (others last)
      · rename_i alone
        by_cases root : first = '√'
        · subst root
          exact .root (head?_ofTypedAfter_ne (fun opens => alone ⟨rfl, opens⟩) last) (others last)
        · refine .copied ?_ (others last)
          simp [isCopied, letter, constant, power, root]

end Symbols

section Idempotent

/-- **In what is written nothing is left to rewrite.** The induction is on the length of the text:
each word or symbol leaves a shorter one. -/
theorem kept_ofTypedAfter (before : Option Char) (text : List Char) :
    Kept (ofTypedAfter before text) := by
  cases text with
  | nil =>
    rw [ofTypedAfter]
    exact .nil
  | cons first rest =>
    by_cases letter : first.isAlpha = true
    · have shorter : (rest.dropWhile Char.isAlpha).length < (first :: rest).length :=
        Nat.lt_succ_of_le (List.dropWhile_sublist _).length_le
      rw [ofTypedAfter, if_pos letter]
      exact .ofWord (List.cons_ne_nil _ _)
        (List.forall_mem_cons.mpr ⟨letter, fun _ => List.mem_takeWhile_imp⟩)
        (Text.stops_dropWhile Char.isAlpha rest)
        (fun text before fewer => kept_ofTypedAfter before text) before _
    · rw [ofTypedAfter, if_neg letter]
      exact .ofSymbol (Bool.eq_false_iff.mpr letter)
        (fun before => kept_ofTypedAfter before rest) before _
termination_by text.length
decreasing_by
  · exact Nat.lt_of_le_of_lt fewer shorter
  · exact Nat.lt_succ_self _

/-- **A canonical text is its own canonical text**, be it an expression or not. -/
theorem ofTyped_ofTyped (text : List Char) : ofTyped (ofTyped text) = ofTyped text :=
  ofTypedAfter_of_kept (kept_ofTypedAfter none text) none

end Idempotent

end ScientificCalculator.Canonical
