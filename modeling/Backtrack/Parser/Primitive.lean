import Backtrack.Parser.Basic
import Backtrack.Text.Blank

/-!
# Backtrack.Parser.Primitive

**Parsers without parts**: a single scalar, a fixed text, a run of white space, a
constant answer; and `charactersUntil`, which only asks another parser where to stop.
None of them consumes anything when it fails.
-/

namespace Backtrack.Parser

variable {m : Type → Type} [ParseMonad m] {α β : Type}

/-- One scalar, whatever it is. -/
def anyChar : Parser m Char where
  parse c :=
    match c.next? with
    | some (ch, rest) => pure (.done ch rest)
    | none => pure (.fail c)

/-- The fixed text `text`. -/
def literal (text : String) : Parser m Unit where
  parse c :=
    if c.startsWith text then do
      return .done () (← checked (c.advanceText text))
    else
      pure (.fail c)

/-- A run of white space, which may be empty. -/
def skipBlank : Parser m Unit where
  parse c := pure (.done () (c.advanceWhile Text.isBlank))

/-- Matches everywhere with the value `value`, consuming nothing. -/
def always (value : α) : Parser m α where
  parse c := pure (.done value c)

/-- Matches nowhere. -/
def never : Parser m α where
  parse c := pure (.fail c)

/-- Separates neighbours by nothing at all. -/
def noDelimiter : Parser m Unit := always ()

/-- Matches everywhere but at the end of the text, consuming nothing. -/
def notAtEnd : Parser m Unit where
  parse c := pure (if c.isEmpty then .fail c else .done () c)

/-- The first cursor, from `c` on, at which `delimiter` matches, or the end of the
text. The list holds the scalars after `c`. -/
def findMatch (delimiter : Parser m β) : List Char → Cursor → m Cursor
  | [], c => pure c
  | ch :: rest, c => do
    if (← delimiter.parse c).isDone then
      return c
    else
      findMatch delimiter rest (c.advance [ch])

/-- The scalars up to the first place where `delimiter` matches, or up to the end.
The delimiter is only looked for and not consumed. -/
def charactersUntil (delimiter : Parser m β) : Parser m String where
  parse c := do
    let stop ← findMatch delimiter c.rest c
    return .done (← checked (stop.consumedSince c.anchor)) stop

end Backtrack.Parser
