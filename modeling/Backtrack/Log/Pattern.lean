import Backtrack.Log.Pattern.Bracket
import Backtrack.Log.Pattern.Opening

/-!
# Backtrack.Log.Pattern

**Which texts are patterns.** A directive can give a regular expression for the value
of a field. No value is ever compared with one here, but a text that is none spoils the
filter, so what has to be known of a text is whether it is a pattern.

A pattern is a choice of branches, and a branch is a row of parts: scalars, places, sets
in brackets and groups in parentheses. A part can be repeated, but not a change of the
mode, and not what is not there. A count of repetitions cannot be given, as its closing
brace would end the field. No two groups have one name, and nothing nests deeper than
250 levels.
-/

namespace Backtrack.Log

namespace Pattern

/-- The branches of a group, as far as they are read. -/
structure Choice where
  /-- The branches that are complete. -/
  branches : Tally := {}
  /-- The parts of the branch that is being read. -/
  parts : Tally := {}
  /-- The depth of the last part, if it can be repeated. -/
  last : Option Nat := none
  deriving DecidableEq, Repr

namespace Choice

/-- A choice with one more part. -/
def add (choice : Choice) (depth : Nat) : Choice :=
  { choice with parts := choice.parts.add depth, last := some depth }

/-- A choice with a change of the mode as one more part. -/
def addChange (choice : Choice) : Choice :=
  { choice with parts := choice.parts.add 0, last := none }

/-- A choice with the last part repeated, which is one level deeper then. -/
def addRepetition? (choice : Choice) : Option Choice :=
  choice.last.map fun depth =>
    { choice with parts := choice.parts.deepen (depth + 1), last := some (depth + 1) }

/-- A choice with one more branch. -/
def addBranch (choice : Choice) : Choice :=
  { branches := choice.branches.add choice.parts.depth }

/-- How deep a choice nests. -/
def depth (choice : Choice) : Nat := choice.addBranch.branches.depth

end Choice

/-- Whether a scalar repeats the part in front of it. -/
def repeats (c : Char) : Bool := ['?', '*', '+'].contains c

/-- A text without the mark that makes a repetition prefer less. -/
def dropReluctance : List Char → List Char
  | '?' :: rest => rest
  | rest => rest

/-- Reads a part that begins with `c` and holds no others. -/
def readSingle? (mode : Mode) (c : Char) (rest : List Char) : Option (List Char) :=
  if c = '\\' then
    ((Escape.read? mode rest).filter fun (escape, _) => escape.isAvailable mode).map (·.2)
  else if c = '.' then
    if mode.scalars then some rest else none
  else if c = '^' ∨ c = '$' then some rest
  else if c ≠ '\x7b' ∧ mode.comparesScalars then some rest
  else none

/-- Reads the branches of a group up to its closing parenthesis or the end of the
text. Gives how deep they nest, the names of all groups so far, and what is left. Every
step takes a scalar off the text, so its length bounds their number. -/
def readChoice? :
    Nat → Mode → List (List Char) → Choice → List Char →
      Option (Nat × List (List Char) × List Char)
  | 0, _, _, _, _ => none
  | fuel + 1, mode, names, choice, cs =>
    match mode.skip cs with
    | [] => some (choice.depth, names, [])
    | ')' :: rest => some (choice.depth, names, ')' :: rest)
    | '|' :: rest => readChoice? fuel mode names choice.addBranch rest
    | '(' :: rest =>
      match Opening.read? mode rest with
      | some (.change mode, rest) => readChoice? fuel mode names choice.addChange rest
      | some (.group inner name, rest) =>
        if name.any names.contains then none
        else
          match readChoice? fuel inner (name.toList ++ names) {} rest with
          | some (depth, names, ')' :: rest) =>
            readChoice? fuel mode names (choice.add (depth + 1)) rest
          | _ => none
      | none => none
    | '[' :: rest =>
      (Bracket.read? mode rest).bind fun (depth, rest) =>
      readChoice? fuel mode names (choice.add depth) rest
    | c :: rest =>
      if repeats c then
        choice.addRepetition?.bind fun choice =>
        readChoice? fuel mode names choice (dropReluctance rest)
      else
        (readSingle? mode c rest).bind fun rest =>
        readChoice? fuel mode names (choice.add 0) rest

/-- The most levels that a pattern may nest. -/
def maxDepth : Nat := 250

end Pattern

/-- Whether a text is a pattern. -/
def isPattern (cs : List Char) : Bool :=
  match Pattern.readChoice? (cs.length + 1) {} [] {} cs with
  | some (depth, _, []) => depth ≤ Pattern.maxDepth
  | _ => false

example : isPattern "a|b*".toList = true := by decide

example : isPattern "(".toList = false := by decide

end Backtrack.Log
