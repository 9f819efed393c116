import Backtrack.Parser.Primitive
import Backtrack.Parser.Sequence

/-!
# Backtrack.Parser.Repeat

**Repetition.** `zeroOrMore` reads elements with a delimiter between neighbours. A
round is a delimiter and an element, and it counts only as a whole: when the
element fails, its delimiter is given back; when the round ends where it began, it
is given back as well, so that a repetition of empty matches comes to an end.

Elements may move backwards, and then a repetition can go on for ever. The number
of attempted rounds is therefore bounded by an argument; a repetition that is not
over by then halts as exhausted. Elements that never move backwards need no more
attempts than there are scalars left, and one.
-/

namespace Backtrack.Parser

variable {m : Type → Type} [ParseMonad m] {α β : Type}

/-- How an attempted round ends. -/
inductive Round (α : Type)
  /-- The round counts: an element `value`, and the repetition goes on at `rest`. -/
  | item (value : α) (rest : Cursor)
  /-- The round does not count, and the repetition is over at `rest`. -/
  | stop (rest : Cursor)

/-- Gives back a round that began at `c` and went as far as `reached`. -/
def giveBack (c reached : Cursor) : m (Round α) := do
  return .stop (← checked (reached.rewind c.anchor))

/-- Attempts a round: a delimiter, then an element. -/
def attemptRound (element : Parser m α) (delimiter : Parser m β) (c : Cursor) : m (Round α) := do
  match ← delimiter.parse c with
  | .fail failed => giveBack c failed
  | .done _ between =>
    match ← element.parse between with
    | .fail failed => giveBack c failed
    | .done value rest =>
      if rest.position = c.position then
        ParseMonad.emit (.stalled c.position)
        giveBack c rest
      else
        return .item value rest

/-- Attempts a round unless the text is at its end. -/
def nextRound (element : Parser m α) (delimiter : Parser m β) (c : Cursor) : m (Round α) :=
  if c.isEmpty then pure (.stop c) else attemptRound element delimiter c

/-- Repeats `round` until it stops, for at most `limit` attempts. The items before
it are `items`, the latest first. -/
def repeatRounds (round : Cursor → m (Round α)) :
    Nat → List α → Cursor → m (List α × Cursor)
  | 0, _, _ => ParseMonad.halt .exhausted
  | limit + 1, items, c => do
    match ← round c with
    | .stop rest => return (items.reverse, rest)
    | .item value rest => repeatRounds round limit (value :: items) rest

/-- Zero or more elements with a delimiter between neighbours, in at most `limit`
attempted rounds after the first element. -/
def zeroOrMore (limit : Nat) (element : Parser m α) (delimiter : Parser m β) :
    Parser m (List α) where
  parse c := do
    match ← element.parse c with
    | .fail failed => return .done [] (← checked (failed.rewind c.anchor))
    | .done value rest =>
      let (items, stop) ← repeatRounds (nextRound element delimiter) limit [value] rest
      return .done items stop

/-- Zero or more elements, in as many rounds as there can be if neither the element
nor the delimiter ever moves backwards. -/
def many (element : Parser m α) (delimiter : Parser m β) : Parser m (List α) where
  parse c := (zeroOrMore (c.rest.length + 1) element delimiter).parse c

/-- A comma and the white space after it. -/
def comma : Parser m Unit := (pair (literal ",") skipBlank).discard

/-- Zero or more elements with a comma between neighbours, so that `a, b,c` reads as
three. -/
def commaSeparated (element : Parser m α) : Parser m (List α) := many element comma

end Backtrack.Parser
