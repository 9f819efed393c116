import Backtrack.Log.Pattern.Mode
import Backtrack.Text.Alphanumeric

/-!
# Backtrack.Log.Pattern.Opening

**What an opening parenthesis introduces**: a group, which may have a name or a mode of
its own, or a change of the mode for what follows.

Modes are changed by letters, each at most once; those behind a hyphen are switched
off.
-/

namespace Backtrack.Log.Pattern

open Backtrack.Text

/-- What an opening parenthesis introduces. -/
inductive Opening where
  /-- A group, which is read in the given mode. -/
  | group (mode : Mode) (name : Option (List Char))
  /-- A change of the mode, which is closed already. -/
  | change (mode : Mode)
  deriving DecidableEq, Repr

namespace Opening

/-- Whether letters change a mode: none comes twice, at most one hyphen stands between
them, and none at the end. -/
def isChange (letters : List Char) : Bool :=
  letters.all ['i', 'm', 's', 'U', 'u', 'R', 'x', '-'].contains &&
    letters.Nodup &&
    letters.getLast? != some '-'

/-- Whether letters leave a setting switched on. -/
def switch (letters : List Char) (letter : Char) (setting : Bool) : Bool :=
  if letters.contains letter then (letters.takeWhile (· != '-')).contains letter else setting

/-- The mode that letters make of one. Some change only what a match would be, and a
pattern can be read without them. -/
def changed (mode : Mode) (letters : List Char) : Mode where
  scalars := switch letters 'u' mode.scalars
  folds := switch letters 'i' mode.folds
  spaced := switch letters 'x' mode.spaced

/-- Whether a scalar can begin a name. -/
def startsName (c : Char) : Bool := c == '_' || isAlphabetic c

/-- Whether a scalar can go on with a name. -/
def continuesName (c : Char) : Bool :=
  ['_', '.', '[', ']'].contains c || isAlphanumeric c

/-- Reads the name of a group. -/
def readName? (mode : Mode) (cs : List Char) : Option (Opening × List Char) :=
  let name := cs.takeWhile (· != '>')
  match name, cs.drop name.length with
  | first :: others, _ :: rest =>
    if startsName first && others.all continuesName then some (.group mode (some name), rest)
    else none
  | _, _ => none

/-- Reads the letters that change a mode. -/
def readChange? (mode : Mode) (cs : List Char) : Option (Opening × List Char) :=
  let letters := cs.takeWhile fun c => c != ':' && c != ')'
  if isChange letters then
    match cs.drop letters.length with
    | ':' :: rest => some (.group (changed mode letters) none, rest)
    | ')' :: rest =>
      if letters.isEmpty then none else some (.change (changed mode letters), rest)
    | _ => none
  else none

/-- Reads what follows an opening parenthesis. -/
def read? (mode : Mode) (cs : List Char) : Option (Opening × List Char) :=
  match mode.skip cs with
  | '?' :: 'P' :: '<' :: rest => readName? mode rest
  | '?' :: '<' :: rest => readName? mode rest
  | '?' :: rest => readChange? mode rest
  | rest => some (.group mode none, rest)

end Opening

end Backtrack.Log.Pattern
