/-
**Blank characters.**

The characters of the Unicode property `White_Space`. They separate the parts of an expression and
mean nothing by themselves; a text of blanks alone holds no expression.

* `isBlank`: the property, as a test.
-/

namespace ScientificCalculator.Text

/-- The code points of the property `White_Space`, in increasing order. -/
def blankCodes : List Nat :=
  [0x0009, 0x000A, 0x000B, 0x000C, 0x000D, 0x0020, 0x0085, 0x00A0, 0x1680, 0x2000, 0x2001, 0x2002,
    0x2003, 0x2004, 0x2005, 0x2006, 0x2007, 0x2008, 0x2009, 0x200A, 0x2028, 0x2029, 0x202F, 0x205F,
    0x3000]

/-- A blank separates, and stands for nothing. -/
def isBlank (character : Char) : Bool :=
  blankCodes.contains character.toNat

end ScientificCalculator.Text
