import Backtrack.Text.Blank

/-!
# Backtrack.Log.Pattern.Mode

**How a stretch of a pattern is to be read.** A pattern can change this for what
follows, or for one group: whether it speaks of scalars or of single bytes, whether
upper and lower case are alike, and whether white space and comments may stand between
its parts.

No tables of cases, digits or words come with a filter. What would need one is not
available while a pattern speaks of scalars; a pattern of bytes makes do with ASCII, but
may not single out a byte that is no text by itself.
-/

namespace Backtrack.Log.Pattern

open Backtrack.Text

/-- How a stretch of a pattern is read. -/
structure Mode where
  /-- Whether the pattern speaks of scalars and not of bytes. -/
  scalars : Bool := true
  /-- Whether upper and lower case are alike. -/
  folds : Bool := false
  /-- Whether white space and comments are skipped. -/
  spaced : Bool := false
  deriving DecidableEq, Repr

/-- A text from its first part that is neither white space nor inside a comment; a
comment goes from a number sign to the end of its line. -/
def dropSpace (inComment : Bool) : List Char → List Char
  | [] => []
  | c :: rest =>
    if inComment then dropSpace (c != '\n') rest
    else if c = '#' then dropSpace true rest
    else if isBlank c then dropSpace false rest
    else c :: rest

namespace Mode

/-- What is left of a text behind the space that a mode lets stand there. -/
def skip (mode : Mode) (cs : List Char) : List Char :=
  if mode.spaced then dropSpace false cs else cs

/-- The scalar that a look ahead finds. Of a comment it passes over the mark alone. -/
def ahead? (mode : Mode) (cs : List Char) : Option Char :=
  if mode.spaced then
    match cs.dropWhile isBlank with
    | '#' :: rest => (rest.dropWhile isBlank).head?
    | rest => rest.head?
  else cs.head?

/-- Whether a scalar can be compared with: not without regard to case, which would take
a table. -/
def comparesScalars (mode : Mode) : Bool := !(mode.scalars && mode.folds)

/-- Whether a scalar can be a member of a set; a set of bytes holds ASCII only. -/
def admitsMember (mode : Mode) (c : Char) : Bool :=
  if mode.scalars then !mode.folds else c.toNat < 0x80

/-- Whether the digits, the spaces or the word characters can be meant, or what is none
of them. -/
def admitsKind (mode : Mode) (negated : Bool) : Bool := !mode.scalars && !negated

/-- Whether a named set of ASCII, or what is not in it, can be a part of a set. -/
def admitsNamed (mode : Mode) (negated : Bool) : Bool :=
  if mode.scalars then !mode.folds else !negated

end Mode

end Backtrack.Log.Pattern
