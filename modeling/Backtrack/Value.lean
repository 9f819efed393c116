/-!
# Backtrack.Value

**Values of grammars.** A grammar is put together while a program runs, so the type
of what it reads is not known beforehand: a value is a unit, a scalar, a number, a
text, a list, a tuple, or another value with a tag. The mappings at the end are
those that a grammar can apply to what it has read.
-/

namespace Backtrack

/-- A value that a grammar reads. -/
inductive Value
  /-- The value of parsers that only recognise. -/
  | unit
  /-- A scalar. -/
  | char (c : Char)
  /-- A natural number of any size. -/
  | int (n : Nat)
  /-- A text. -/
  | text (s : String)
  /-- The items of a repetition. -/
  | list (items : List Value)
  /-- The members of a sequence. -/
  | tuple (members : List Value)
  /-- A value under a tag. -/
  | tagged (tag : String) (value : Value)
  deriving Repr

namespace Value

/-! ### Equality -/

mutual

/-- Whether two values are equal. -/
def beq : Value → Value → Bool
  | unit, unit => true
  | char a, char b => a == b
  | int a, int b => a == b
  | text a, text b => a == b
  | list as, list bs => beqAll as bs
  | tuple as, tuple bs => beqAll as bs
  | tagged s a, tagged t b => s == t && beq a b
  | _, _ => false

/-- Whether two lists of values are equal. -/
def beqAll : List Value → List Value → Bool
  | [], [] => true
  | a :: as, b :: bs => beq a b && beqAll as bs
  | _, _ => false

end

mutual

theorem beq_iff : ∀ a b : Value, beq a b = true ↔ a = b
  | unit, b => by cases b <;> simp [beq]
  | char a, b => by cases b <;> simp [beq]
  | int a, b => by cases b <;> simp [beq]
  | text a, b => by cases b <;> simp [beq]
  | list as, b => by cases b <;> simp [beq, beqAll_iff as]
  | tuple as, b => by cases b <;> simp [beq, beqAll_iff as]
  | tagged s a, b => by cases b <;> simp [beq, beq_iff a]

theorem beqAll_iff : ∀ as bs : List Value, beqAll as bs = true ↔ as = bs
  | [], bs => by cases bs <;> simp [beqAll]
  | a :: as, bs => by cases bs <;> simp [beqAll, beq_iff a, beqAll_iff as]

end

instance : DecidableEq Value := fun a b => decidable_of_iff _ (beq_iff a b)

/-! ### Mappings -/

/-- The number of scalars of a text or of members of a list or tuple; else zero. -/
def size : Value → Nat
  | text s => s.length
  | list items => items.length
  | tuple members => members.length
  | _ => 0

mutual

/-- The sum of all numbers inside a value. -/
def sum : Value → Nat
  | int n => n
  | list items => sumAll items
  | tuple members => sumAll members
  | tagged _ value => sum value
  | _ => 0

/-- The sum of all numbers inside some values. -/
def sumAll : List Value → Nat
  | [] => 0
  | value :: values => sum value + sumAll values

end

mutual

/-- All texts and scalars inside a value, from left to right. -/
def join : Value → String
  | char c => String.singleton c
  | text s => s
  | list items => joinAll items
  | tuple members => joinAll members
  | tagged _ value => join value
  | _ => ""

/-- All texts and scalars inside some values, from left to right. -/
def joinAll : List Value → String
  | [] => ""
  | value :: values => join value ++ joinAll values

end

/-- The member at `index` of a list or tuple; a unit, if there is none. -/
def nth (index : Nat) : Value → Value
  | list items => items.getD index unit
  | tuple members => members.getD index unit
  | _ => unit

end Value

/-- A mapping that a grammar applies to a value. -/
inductive Mapping
  /-- The size as a number. -/
  | size
  /-- The sum of the numbers inside. -/
  | sum
  /-- One more than the sum of the numbers inside. -/
  | successor
  /-- The texts and scalars inside as one text. -/
  | join
  /-- The value under a tag. -/
  | tag (name : String)
  /-- Another value. -/
  | const (value : Value)
  /-- A member of a list or tuple. -/
  | nth (index : Nat)

/-- What a mapping makes of a value. -/
def Mapping.apply : Mapping → Value → Value
  | size, v => .int v.size
  | sum, v => .int v.sum
  | successor, v => .int (v.sum + 1)
  | join, v => .text v.join
  | tag name, v => .tagged name v
  | const value, _ => value
  | nth index, v => v.nth index

end Backtrack
