/-!
# Backtrack.Site

**Where a parser is deferred.** A reference to a rule is built where it stands: two
references to one rule are built apart, and so are the references in two buildings of
one body. A `Spot` tells where in a grammar parsing is, and a `Site` is a spot where a
reference stands.

A continuation makes a new parser whenever it is invoked, so each invocation is a
branch of its own. What a continuation only hands out, however, was made together with
it: such a shared part stands beside the branches, and is the same in all of them.
-/

namespace Backtrack

/-- A step from a grammar to a part of it. -/
inductive Step
  /-- To the part `index`. -/
  | part (index : Nat)
  /-- Into a continuation, at its invocation `number`. -/
  | branch (number : Nat)
  /-- To the part `index` that a continuation shares among its invocations. -/
  | shared (index : Nat)
  deriving DecidableEq, Hashable, Repr

/-- A reference to a rule. -/
structure Site where
  /-- The building in whose body it stands; zero stands for the grammar itself. -/
  owner : Nat
  /-- The way to it, the last step first. -/
  path : List Step
  /-- The rule that is referred to. -/
  rule : String
  deriving DecidableEq, Hashable, Repr

/-- A place in a grammar. -/
structure Spot where
  /-- The building in whose body it lies; zero stands for the grammar itself. -/
  owner : Nat := 0
  /-- The way to it, the last step first. -/
  path : List Step := []
  /-- The way to the innermost continuation around it. -/
  around : List Step := []
  deriving DecidableEq, Repr

namespace Spot

/-- The start of the body of a building. -/
def body (number : Nat) : Spot := { owner := number }

/-- The part `index` of what stands here. -/
def part (s : Spot) (index : Nat) : Spot := { s with path := .part index :: s.path }

/-- The invocation `number` of the continuation that stands here. -/
def branch (s : Spot) (number : Nat) : Spot :=
  { s with path := .branch number :: s.path, around := s.path }

/-- The part `index` that the continuation around this spot shares. -/
def shared (s : Spot) (index : Nat) : Spot := { s with path := .shared index :: s.around }

/-- The reference to a rule that stands here. -/
def site (s : Spot) (rule : String) : Site := ⟨s.owner, s.path, rule⟩

end Spot

end Backtrack
