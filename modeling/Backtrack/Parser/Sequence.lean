import Backtrack.Parser.Basic

/-!
# Backtrack.Parser.Sequence

**One parser after another.** A sequence is a transaction: when a member fails,
the sequence fails where it began, whatever cursor the member hands back. The one
thing that a member must not do is to fail in another text, since there is no way
back from there.
-/

namespace Backtrack.Parser

variable {m : Type → Type} [ParseMonad m] {α β γ : Type}

/-- Applies `f` to the value. -/
def map (f : α → β) (p : Parser m α) : Parser m β where
  parse c := do return (← p.parse c).map f

/-- Forgets the value. -/
def discard (p : Parser m α) : Parser m Unit := p.map fun _ => ()

/-- Gives every match the value `value`. -/
def as (value : β) (p : Parser m α) : Parser m β := p.map fun _ => value

/-- Goes on with a parser chosen by the value of the first one. -/
def bind (p : Parser m α) (next : α → Parser m β) : Parser m β where
  parse c := do
    match ← p.parse c with
    | .fail failed => failBack c failed
    | .done value rest =>
      match ← (next value).parse rest with
      | .fail failed => failBack c failed
      | .done value' rest' => return .done value' rest'

/-- Two parsers, one after the other. -/
def pair (p : Parser m α) (q : Parser m β) : Parser m (α × β) where
  parse c := do
    match ← p.parse c with
    | .fail failed => failBack c failed
    | .done a rest =>
      match ← q.parse rest with
      | .fail failed => failBack c failed
      | .done b rest' => return .done (a, b) rest'

/-- What stands between an opening and a closing parser. -/
def between (opening : Parser m α) (p : Parser m β) (closing : Parser m γ) : Parser m β where
  parse c := do
    match ← opening.parse c with
    | .fail failed => failBack c failed
    | .done _ rest =>
      match ← p.parse rest with
      | .fail failed => failBack c failed
      | .done value rest' =>
        match ← closing.parse rest' with
        | .fail failed => failBack c failed
        | .done _ rest'' => return .done value rest''

/-- The members of a sequence that began at `entry`, from `c` on. -/
def sequenceFrom (entry : Cursor) : List (Parser m α) → Cursor → m (Reply (List α))
  | [], c => pure (.done [] c)
  | p :: ps, c => do
    match ← p.parse c with
    | .fail failed => failBack entry failed
    | .done value rest => return (← sequenceFrom entry ps rest).map (value :: ·)

/-- All parsers of a list in order, with the list of their values. -/
def sequence (ps : List (Parser m α)) : Parser m (List α) where
  parse c := sequenceFrom c ps c

end Backtrack.Parser
