import Backtrack.Text.Alphabetic
import Backtrack.Text.Numeric

/-!
# Backtrack.Text.Alphanumeric

**Letters and numbers** of all scripts.
-/

namespace Backtrack.Text

/-- Whether a scalar is a letter or a number. -/
def isAlphanumeric (c : Char) : Bool := isAlphabetic c || isNumeric c

end Backtrack.Text
