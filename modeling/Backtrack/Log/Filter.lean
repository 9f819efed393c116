import Backtrack.Log.Directive

/-!
# Backtrack.Log.Filter

**Which records are shown.** A filter is a list of directives. Of those that cover a
record the closest one decides, of equals the latest; a record that none covers is not
shown.
-/

namespace Backtrack.Log

/-- The directives of a filter, in order. -/
abbrev Filter := List Directive

namespace Filter

/-- The closest directive so far, when `directive` comes next. -/
def prefer (best : Option Directive) (directive : Directive) : Option Directive :=
  match best with
  | some kept => if kept.isCloser directive then some kept else some directive
  | none => some directive

/-- The directive that decides about a record. -/
def deciding (filter : Filter) (record : Record) : Option Directive :=
  (filter.filter fun directive => directive.covers record).foldl prefer none

/-- Whether a record is shown. -/
def shows (filter : Filter) (record : Record) : Bool :=
  match filter.deciding record with
  | some directive => record.level.rank ≤ directive.rank
  | none => false

/-! ### Reading -/

/-- The pieces of a text between commas. -/
def splitCommas : List Char → List (List Char)
  | [] => [[]]
  | c :: rest =>
    match splitCommas rest with
    | [] => [[c]]
    | piece :: pieces => if c = ',' then [] :: piece :: pieces else (c :: piece) :: pieces

/-- Reads directives separated by commas, where nothing may stand between two of
them. One that cannot be read spoils the whole filter. -/
def read? (text : String) : Option Filter :=
  ((splitCommas text.toList).filter fun piece => !piece.isEmpty).mapM Directive.read?

end Filter

end Backtrack.Log
