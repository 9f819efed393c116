import Backtrack.Parser.Choice
import Backtrack.Parser.Repeat

/-!
# Backtrack.Csv.Grammar

**The grammar of tables in plain text.** Rows are separated by line feeds, fields by
a comma and white space. A field stands between double quotes or is plain; there is
no way to write a quote inside a quoted field. A field never starts at the end of
the text, so a text that ends with a comma does not match as a whole, and a text
that ends with a line feed ends with an empty row.
-/

namespace Backtrack.Csv

open Backtrack.Parser

variable {m : Type → Type} [ParseMonad m]

/-- A quote, the text up to the next quote, and that quote. -/
def quotedField : Parser m String :=
  between (literal "\"") (charactersUntil (literal "\"")) (literal "\"")

/-- The text up to the next comma or line feed, which may be empty. -/
def plainField : Parser m String := charactersUntil (firstLiteral [",", "\n"] ())

/-- A quoted or a plain field. The quoted form comes first, so a quote at the start
opens a quoted field whenever there is one to close it. -/
def field : Parser m String :=
  (pair notAtEnd (first [quotedField, plainField])).map Prod.snd

/-- The fields of a row. -/
def line : Parser m (List String) := commaSeparated field

/-- The rows of a table. -/
def document : Parser m (List (List String)) := many line (literal "\n")

end Backtrack.Csv
