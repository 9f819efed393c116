import Backtrack.Parser.Integer

/-!
# Backtrack.Parsable

**Types with a grammar of their own.** A value of such a type can be read from a
text, and written down in a program as a literal.
-/

namespace Backtrack

/-- A type with a canonical parser. -/
class Parsable (α : Type) where
  /-- The name of the type in reports. -/
  typeName : String
  /-- The canonical parser. -/
  parser {m : Type → Type} [ParseMonad m] : Parser m α

namespace Parsable

variable {m : Type → Type} [ParseMonad m] {α : Type} [Parsable α]

/-- Reads a value from a whole text. -/
def read (text : Source) : m (Option α) := (parser : Parser m α).run text

/-- The value of a literal. A literal that does not parse is a mistake of the
program in which it stands, and so a fault. -/
def ofLiteral (text : Source) : m α := do
  match ← (read text : m (Option α)) with
  | some value => return value
  | none => ParseMonad.halt (.fault (.malformedLiteral text.contents (typeName α)))

end Parsable

/-- A word is written in decimal. -/
instance : Parsable UInt64 where
  typeName := "u64"
  parser := Parser.nonNegativeInteger

end Backtrack
