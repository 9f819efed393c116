import Backtrack.Parser.Basic

/-!
# Backtrack.Parser.Integer

**Decimal numerals of 64-bit words.** The digits are read from the left; each step
multiplies by ten and adds the digit, and either half of it can run out of the
word. A numeral that does not fit is no match.
-/

namespace Backtrack

/-- The product, if it fits into a word. -/
def checkedMul (a b : UInt64) : Option UInt64 :=
  if a.toNat * b.toNat < UInt64.size then some (a * b) else none

/-- The sum, if it fits into a word. -/
def checkedAdd (a b : UInt64) : Option UInt64 :=
  if a.toNat + b.toNat < UInt64.size then some (a + b) else none

/-- A checked product is the exact product, and there is one exactly if it fits. -/
theorem checkedMul_eq_some_iff {a b c : UInt64} :
    checkedMul a b = some c ↔ c.toNat = a.toNat * b.toNat := by
  unfold checkedMul
  by_cases h : a.toNat * b.toNat < UInt64.size
  · rw [if_pos h, Option.some.injEq, ← UInt64.toNat_inj, UInt64.toNat_mul,
      Nat.mod_eq_of_lt h, eq_comm]
  · have hc := c.toNat_lt_size
    simp only [if_neg h, reduceCtorEq, false_iff]
    omega

/-- A checked sum is the exact sum, and there is one exactly if it fits. -/
theorem checkedAdd_eq_some_iff {a b c : UInt64} :
    checkedAdd a b = some c ↔ c.toNat = a.toNat + b.toNat := by
  unfold checkedAdd
  by_cases h : a.toNat + b.toNat < UInt64.size
  · rw [if_pos h, Option.some.injEq, ← UInt64.toNat_inj, UInt64.toNat_add,
      Nat.mod_eq_of_lt h, eq_comm]
  · have hc := c.toNat_lt_size
    simp only [if_neg h, reduceCtorEq, false_iff]
    omega

/-- The value of a numeral with one more digit, if it fits into a word. -/
def pushDigit (value : UInt64) (digit : Char) : Option UInt64 := do
  checkedAdd (← checkedMul value 10) (UInt64.ofNat (digit.toNat - '0'.toNat))

/-- The value of a run of digits, if it fits into a word. -/
def readDigits (digits : List Char) : Option UInt64 := digits.foldlM pushDigit 0

/-- A run of ASCII digits, read in base ten. No match if there is no digit or the
value does not fit into a word. -/
def Parser.nonNegativeInteger {m : Type → Type} [ParseMonad m] : Parser m UInt64 where
  parse c :=
    match c.rest.takeWhile Char.isDigit with
    | [] => pure (.fail c)
    | digits =>
      match readDigits digits with
      | some value => pure (.done value (c.advance digits))
      | none => pure (.fail c)

end Backtrack
