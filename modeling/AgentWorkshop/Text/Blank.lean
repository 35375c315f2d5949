import AgentWorkshop.Text.Basic

/-!
# Blank code points

What counts as blank at the ends of a text and in a blank line: the Unicode
white space, and the four information separators U+001C to U+001F besides.
-/

namespace AgentWorkshop

namespace CodePoint

/-- The ranges, both ends included and in ascending order, of the blank code points. -/
def blankRanges : List (Nat × Nat) :=
  [
    (0x9, 0xD), (0x1C, 0x20), (0x85, 0x85), (0xA0, 0xA0), (0x1680, 0x1680),
    (0x2000, 0x200A), (0x2028, 0x2029), (0x202F, 0x202F), (0x205F, 0x205F), (0x3000, 0x3000)
  ]

/-- The code point is blank. -/
def isBlank (c : CodePoint) : Bool :=
  blankRanges.any fun r => decide (r.1 ≤ c.val) && decide (c.val ≤ r.2)

end CodePoint

namespace Text

/-- Every code point of the text is blank. -/
def isBlank (t : Text) : Bool :=
  t.all CodePoint.isBlank

/-- The text without the blank code points at its two ends. -/
def strip (t : Text) : Text :=
  t.trimBy CodePoint.isBlank

end Text

end AgentWorkshop
