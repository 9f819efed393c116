import Backtrack.Csv.Grammar
import Backtrack.Grammar.Basic

/-!
# Backtrack.Csv.Rule

**The rules of the table grammar inside other grammars**, by name.
-/

namespace Backtrack.Csv

/-- A rule of the table grammar. -/
inductive Rule
  /-- A field between quotes. -/
  | quotedField
  /-- A field without quotes. -/
  | plainField
  /-- A field of either form. -/
  | field
  /-- A row. -/
  | line
  /-- A whole table. -/
  | document
  deriving DecidableEq, Repr

/-- A row as a value. -/
def rowValue (row : List String) : Value := .list (row.map .text)

/-- The rows of a table as a value. -/
def rowsValue (rows : List (List String)) : Value := .list (rows.map rowValue)

/-- The parser of a rule. -/
def Rule.parser : Rule → Parser Silent Value
  | quotedField => Csv.quotedField.map .text
  | plainField => Csv.plainField.map .text
  | field => Csv.field.map .text
  | line => Csv.line.map rowValue
  | document => Csv.document.map rowsValue

/-- A rule as a part of a grammar. -/
def Rule.grammar (rule : Rule) : Grammar := .custom rule.parser.parse

end Backtrack.Csv
