import Backtrack.Csv.Grammar
import Backtrack.Parsable

/-!
# Backtrack.Csv.Table

**Tables**: rows of fields in the order of the text, without a header and without
types for the columns.
-/

namespace Backtrack.Csv

/-- Rows of fields. -/
structure Table where
  /-- The rows in order. -/
  rows : List (List String) := []
  deriving DecidableEq, Repr, Inhabited

namespace Table

/-- The number of rows. -/
def size (table : Table) : Nat := table.rows.length

/-- Whether there is no row. -/
def isEmpty (table : Table) : Bool := table.rows.isEmpty

end Table

/-- A table is written as a document of the grammar. -/
instance : Parsable Table where
  typeName := "unicomb_csv::table::Table"
  parser := document.map Table.mk

/-- The report on a text that is not a table. -/
inductive NoMatch
  | noMatch
  deriving DecidableEq, Repr

/-- The wording of the report. -/
def NoMatch.message (_ : NoMatch) : String := "the input is not a CSV document"

namespace Table

/-- Reads a table from a text, or reports that it is none. -/
def ofText {m : Type → Type} [ParseMonad m] (text : Source) : m (Except NoMatch Table) := do
  match ← (Parsable.read text : m (Option Table)) with
  | some table => return .ok table
  | none => return .error .noMatch

end Table

end Backtrack.Csv
