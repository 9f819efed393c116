import Backtrack.Parser.Primitive
import Backtrack.Parser.Sequence

/-!
# Backtrack.Parser.Choice

**One parser of several.** `first` takes the earliest candidate that matches; it
does not look after the cursor in between, so a candidate goes on from wherever the
failed one before it ended up. `longest` runs every candidate at its own entry
cursor and takes the match that reaches furthest, of equals the earliest.
-/

namespace Backtrack.Parser

variable {m : Type → Type} [ParseMonad m] {α : Type}

/-- The candidates of `first`, from `c` on. -/
def firstFrom : List (Parser m α) → Cursor → m (Reply α)
  | [], c => pure (.fail c)
  | p :: ps, c => do
    match ← p.parse c with
    | .done value rest => return .done value rest
    | .fail rest => firstFrom ps rest

/-- The earliest candidate that matches. -/
def first (ps : List (Parser m α)) : Parser m α where
  parse c := firstFrom ps c

/-- The first of two candidates that matches. -/
def or (p q : Parser m α) : Parser m α := first [p, q]

/-- Which of two matches goes further; the one found before, if they end together. -/
def further (best : Option (α × Cursor)) (value : α) (rest : Cursor) : Option (α × Cursor) :=
  match best with
  | none => some (value, rest)
  | some (kept, reached) =>
    if reached.position < rest.position then some (value, rest) else some (kept, reached)

/-- The match that reaches furthest among `best` and those of the candidates at `c`. -/
def furthest (c : Cursor) : List (Parser m α) → Option (α × Cursor) → m (Option (α × Cursor))
  | [], best => pure best
  | p :: ps, best => do
    match ← p.parse c with
    | .done value rest => furthest c ps (further best value rest)
    | .fail _ => furthest c ps best

/-- The candidate whose match reaches furthest. -/
def longest (ps : List (Parser m α)) : Parser m α where
  parse c := do
    match ← furthest c ps none with
    | some (value, rest) => return .done value rest
    | none => return .fail c

/-! ### Choices between fixed texts -/

/-- The fixed text `text`, standing for `value`. -/
def literalAs (text : String) (value : α) : Parser m α := (literal text).as value

/-- The earliest of some fixed texts that matches, standing for `value`. -/
def firstLiteral (texts : List String) (value : α) : Parser m α :=
  (first (texts.map literal)).as value

/-- The longest of some fixed texts that matches, standing for `value`. -/
def longestLiteral (texts : List String) (value : α) : Parser m α :=
  (longest (texts.map literal)).as value

end Backtrack.Parser
