/-!
# Backtrack.Text.Ranges

**Character classes as tables of code points.** A class of the Unicode standard is
held as a list of inclusive ranges; membership is a scan of that list, so a class
is a plain value that a proof can look into.
-/

namespace Backtrack.Text

/-- A class of scalars, as inclusive ranges of code points in increasing order. -/
abbrev Ranges := List (Nat × Nat)

/-- Whether `c` lies in one of the ranges. -/
def Ranges.contains (ranges : Ranges) (c : Char) : Bool :=
  ranges.any fun range => decide (range.1 ≤ c.toNat ∧ c.toNat ≤ range.2)

@[simp] theorem Ranges.contains_nil (c : Char) : Ranges.contains [] c = false := rfl

@[simp] theorem Ranges.contains_cons (range : Nat × Nat) (ranges : Ranges) (c : Char) :
    Ranges.contains (range :: ranges) c =
      (decide (range.1 ≤ c.toNat ∧ c.toNat ≤ range.2) || ranges.contains c) := rfl

end Backtrack.Text
