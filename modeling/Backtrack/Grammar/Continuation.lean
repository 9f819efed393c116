import Backtrack.Grammar.Basic

/-!
# Backtrack.Grammar.Continuation

**What comes after a value.** A continuation chooses the second part of a sequence
from the value of the first: the same text again, a fixed grammar, as many
repetitions as a number says, or one of several cases. The grammars that it chooses
from are made once, together with it, and shared by all its invocations and by all
repetitions in one of them.
-/

namespace Backtrack

/-- How the value of the first part chooses the second part. -/
inductive Continuation
  /-- The text of the value once more. -/
  | same
  /-- A fixed grammar, whose value is the value of the whole. -/
  | run (g : Grammar)
  /-- A fixed grammar; the value of the whole is the pair of both values. -/
  | keep (g : Grammar)
  /-- The grammar as many times as the numbers in the value add up to. -/
  | times (g : Grammar)
  /-- The grammar of the first case with the same value, or `other`. -/
  | cases (table : List (Value × Grammar)) (other : Grammar)

namespace Continuation

/-- The largest count that `times` repeats; a larger one never matches. -/
def maxTimes : Nat := 500

/-- A tuple as the list of its members. -/
def listOfTuple : Value → Value
  | .tuple members => .list members
  | value => value

/-- The grammar of the first case with the value `v`, or `other`. The cases are
numbered from `index` on. -/
def select (v : Value) (other : Grammar) : Nat → List (Value × Grammar) → Grammar
  | _, [] => other
  | index, (w, g) :: table => if w = v then .shared index g else select v other (index + 1) table

/-- The second part that a value chooses. -/
def next : Continuation → Value → Grammar
  | same, v => .literal v.join
  | run g, _ => .shared 0 g
  | keep g, v => .map (fun w => .tuple [v, w]) (.shared 0 g)
  | times g, v =>
    if maxTimes < v.sum then .never
    else .map listOfTuple (.zip (List.replicate v.sum (.shared 0 g)))
  | cases table other, v => select v (.shared 0 other) 1 table

end Continuation

/-- Goes on as a continuation says. -/
def Grammar.andThen (g : Grammar) (k : Continuation) : Grammar := .bind g k.next

end Backtrack
