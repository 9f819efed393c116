import Backtrack.Event
import Backtrack.Reply

/-!
# Backtrack.Parser.Basic

**Parsers and the computations they run in.** A parser takes a cursor to a reply.
On the way it can halt, because a precondition is broken or a bound is used up, and
it can report events. `ParseMonad` is what it needs for that, and every combinator
works in any such monad. Two of them live here:

* `Silent` forgets the events, so that a parser is a plain function of its cursor;
* `Logged` keeps the events in order, also those before a halt.
-/

namespace Backtrack

/-! ### Computations -/

/-- Computations that can halt and report events. -/
class ParseMonad (m : Type → Type) extends Monad m where
  /-- Ends the computation. -/
  halt {α : Type} : Halt → m α
  /-- Reports an event. -/
  emit : Event → m Unit

/-- Computations that keep no events. -/
abbrev Silent := Except Halt

/-- Computations that keep the events reported so far, the latest first. -/
abbrev Logged := ExceptT Halt (StateM (List Event))

instance : ParseMonad Silent where
  halt := .error
  emit _ := .ok ()

instance : ParseMonad Logged where
  halt := throw
  emit event := modify (event :: ·)

/-- The outcome of a computation and its events, the earliest first. -/
def Logged.outcome {α : Type} (x : Logged α) : Except Halt α × List Event :=
  let (result, events) := x.run.run []
  (result, events.reverse)

/-- Goes on with the result of a checked operation, or halts with its fault. -/
def checked {m : Type → Type} [ParseMonad m] {α : Type} : Except Fault α → m α
  | .ok a => pure a
  | .error cause => ParseMonad.halt (.fault cause)

@[simp] theorem checked_ok {m : Type → Type} [ParseMonad m] {α : Type} (a : α) :
    (checked (.ok a) : m α) = pure a := rfl

@[simp] theorem checked_error {m : Type → Type} [ParseMonad m] {α : Type} (cause : Fault) :
    (checked (.error cause) : m α) = ParseMonad.halt (.fault cause) := rfl

/-! ### Parsers -/

/-- A reusable recogniser of texts that stand for a value. -/
structure Parser (m : Type → Type) (α : Type) where
  /-- The reply at a cursor. -/
  parse : Cursor → m (Reply α)

namespace Parser

variable {m : Type → Type} [ParseMonad m] {α : Type}

/-- Parses from the scalar `offset` of a text on; the match need not reach the end,
and what is left of the text comes with it. -/
def runFrom (p : Parser m α) (text : Source) (offset : Nat) : m (Option α × String) := do
  let reply ← p.parse (← checked (Cursor.locate text offset))
  return (reply.value?, reply.rest.remaining)

/-- Parses a whole text. A match that leaves something unread is no match; that it
was thrown away is reported. -/
def run (p : Parser m α) (text : Source) : m (Option α) := do
  match ← p.runFrom text 0 with
  | (some value, rest) =>
    if rest.isEmpty then
      return some value
    else
      ParseMonad.emit
        (.rejected (Text.utf8Length text.toList) (Text.utf8Length rest.toList))
      return none
  | (none, _) => return none

/-- The reply of a failed parser whose caller began at `entry`: it fails there. -/
def failBack {β : Type} (entry failed : Cursor) : m (Reply β) := do
  return .fail (← checked (failed.rewind entry.anchor))

end Parser

end Backtrack
