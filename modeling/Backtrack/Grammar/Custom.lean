import Backtrack.Grammar.Basic

/-!
# Backtrack.Grammar.Custom

**Parsers written as functions.** Two of them are well behaved and read ASCII
letters. The others break, each in its own way, a rule that the library's parsers
keep: they fail behind or before their entry, match backwards, or answer with a
cursor of another text.
-/

namespace Backtrack.Grammar

/-! ### Letters -/

/-- One ASCII letter. -/
def letter : Grammar :=
  custom fun c =>
    match c.next? with
    | some (ch, rest) => .ok (if ch.isAlpha then .done (.char ch) rest else .fail c)
    | none => .ok (.fail c)

/-- The longest run of ASCII letters, which may be empty. -/
def letters : Grammar :=
  custom fun c => do
    let rest := c.advanceWhile Char.isAlpha
    return .done (.text (← checked (rest.consumedSince c.anchor))) rest

/-! ### Breaking the rules -/

/-- Moves past up to `count` scalars and fails there. -/
def leak (count : Nat) : Grammar := custom fun c => .ok (.fail (c.forward count).1)

/-- Matches at the position `position` of the text, wherever it began. -/
def jump (position : Nat) : Grammar :=
  custom fun c => do
    return .done (.int position) (← checked (Cursor.locate c.source position))

/-- Fails at the position `position` of the text, wherever it began. -/
def failAt (position : Nat) : Grammar :=
  custom fun c => do return .fail (← checked (Cursor.locate c.source position))

/-- Matches at the start of another text. -/
def foreignDone (text : Source) : Grammar := custom fun _ => .ok (.done .unit (Cursor.start text))

/-- Fails at the start of another text. -/
def foreignFail (text : Source) : Grammar := custom fun _ => .ok (.fail (Cursor.start text))

end Backtrack.Grammar
