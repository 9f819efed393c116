import Backtrack.Text.Ranges

/-!
# Backtrack.Text.Blank

**White space**, as the Unicode property `White_Space` has it: twenty-five scalars,
among them the line breaks, the no-break space and the ideographic space. The
zero-width space is not one of them.
-/

namespace Backtrack.Text

/-- The scalars with the property `White_Space`. -/
def blankRanges : Ranges :=
  [(0x9, 0xd), (0x20, 0x20), (0x85, 0x85), (0xa0, 0xa0), (0x1680, 0x1680),
   (0x2000, 0x200a), (0x2028, 0x2029), (0x202f, 0x202f), (0x205f, 0x205f),
   (0x3000, 0x3000)]

/-- Whether a scalar is white space. -/
def isBlank (c : Char) : Bool := blankRanges.contains c

example : isBlank '\n' = true := by decide

example : isBlank ',' = false := by decide

end Backtrack.Text
