/-!
# Backtrack.Log.Pattern.Tally

**How deep a row of parts nests.** A row of several parts is one level deeper than the
deepest of them; a part that stands alone adds no level.
-/

namespace Backtrack.Log.Pattern

/-- The parts of a row so far: their number, and the depth of the deepest. -/
structure Tally where
  count : Nat := 0
  deepest : Nat := 0
  deriving DecidableEq, Repr

namespace Tally

/-- A row with one more part. -/
def add (tally : Tally) (depth : Nat) : Tally :=
  { count := tally.count + 1, deepest := max tally.deepest depth }

/-- A row whose last part became deeper. -/
def deepen (tally : Tally) (depth : Nat) : Tally :=
  { tally with deepest := max tally.deepest depth }

/-- The depth of a row. -/
def depth (tally : Tally) : Nat :=
  if tally.count ≤ 1 then tally.deepest else tally.deepest + 1

end Tally

end Backtrack.Log.Pattern
