import Backtrack.Fault
import Backtrack.Text.Utf8

/-!
# Backtrack.Cursor

**Places in a text.** A cursor counts how far it is twice, in scalars and in UTF-8
bytes, and holds the scalars that are still to be read. Cursors are values: a
parser that wants to come back keeps an anchor, which is a cursor put aside, and
rewinds to it. An anchor is only good for the text that it was taken in; a copy of
that text is another text, so a text is known by where it is kept (`Source`).
-/

namespace Backtrack

open Backtrack.Text (utf8Length)

/-! ### Texts -/

/-- A text where it is kept. Texts that begin at one address and are equally long are
one text, so that two sources are equal exactly if they agree in address and length;
equal contents at another address are another text. -/
structure Source where
  /-- What the text says. -/
  contents : String
  /-- Where it begins in memory. -/
  address : Nat
  deriving DecidableEq, Repr

/-- A text of which there is only one, so that it may be kept anywhere. -/
instance : Coe String Source where
  coe contents := ⟨contents, 0⟩

namespace Source

/-- The scalars of a text. -/
abbrev toList (text : Source) : List Char := text.contents.toList

/-- The number of scalars of a text. -/
abbrev length (text : Source) : Nat := text.contents.length

theorem length_toList (text : Source) : text.toList.length = text.length := String.length_toList

end Source

/-! ### Cursors -/

/-- A place in a text. -/
structure Cursor where
  /-- The whole text. -/
  source : Source
  /-- Scalars before the cursor. -/
  position : Nat
  /-- UTF-8 bytes before the cursor. -/
  offset : Nat
  /-- Scalars after the cursor. -/
  rest : List Char
  deriving DecidableEq, Repr

/-- A cursor put aside, to come back to. -/
structure Anchor where
  /-- The cursor that was put aside. -/
  cursor : Cursor
  deriving DecidableEq, Repr

namespace Cursor

/-! ### Reading -/

/-- The cursor before the first scalar of a text. -/
def start (text : Source) : Cursor := ⟨text, 0, 0, text.toList⟩

/-- The text after the cursor. -/
def remaining (c : Cursor) : String := String.ofList c.rest

/-- Whether nothing is left to read. -/
def isEmpty (c : Cursor) : Bool := c.rest.isEmpty

/-- The next scalar. -/
def peek? (c : Cursor) : Option Char := c.rest.head?

/-- Whether the text after the cursor begins with `text`. -/
def startsWith (c : Cursor) (text : String) : Bool := text.toList.isPrefixOf c.rest

/-- Whether two cursors are equally far in texts with equal contents, be they one text
or two. -/
def agrees (c d : Cursor) : Bool :=
  c.source.contents = d.source.contents && c.offset = d.offset && c.position = d.position

@[simp] theorem remaining_toList (c : Cursor) : c.remaining.toList = c.rest := by
  simp [remaining]

/-! ### Moving forward -/

/-- The cursor behind `run`, which has to be what the text goes on with. -/
def advance (c : Cursor) (run : List Char) : Cursor :=
  { c with
    position := c.position + run.length
    offset := c.offset + utf8Length run
    rest := c.rest.drop run.length }

@[simp] theorem advance_source (c : Cursor) (run : List Char) :
    (c.advance run).source = c.source := rfl

@[simp] theorem advance_nil (c : Cursor) : c.advance [] = c := by
  simp [advance]

/-- Moving past two runs one after the other is moving past both at once. -/
theorem advance_advance (c : Cursor) (xs ys : List Char) :
    (c.advance xs).advance ys = c.advance (xs ++ ys) := by
  simp [advance, Nat.add_assoc]

/-- The next scalar and the cursor behind it. -/
def next? (c : Cursor) : Option (Char × Cursor) :=
  match c.rest with
  | [] => none
  | ch :: _ => some (ch, c.advance [ch])

/-- The cursor `count` scalars further on, or as many as there are before the end,
in which case the scalars that are missing are counted. -/
def forward : Nat → Cursor → Cursor × Nat
  | 0, c => (c, 0)
  | count + 1, c =>
    match c.next? with
    | none => (c, count + 1)
    | some (_, next) => forward count next

/-- The cursor `position` scalars into a text. -/
def locate (text : Source) (position : Nat) : Except Fault Cursor :=
  match (start text).forward position with
  | (c, 0) => .ok c
  | (c, _ + 1) => .error (.offsetOutOfRange position c.position)

/-- The cursor behind `text`, if that is what comes next. -/
def advanceText (c : Cursor) (text : String) : Except Fault Cursor :=
  if c.startsWith text then .ok (c.advance text.toList) else .error (.textMismatch text)

/-- The longest initial run of scalars on which successive calls of `step` answer
yes, with the state after the last call. Each call hands its state to the next; the
call that answers no is made as well. -/
def acceptedRun {σ : Type} (step : σ → Char → Bool × σ) : σ → List Char → List Char × σ
  | s, [] => ([], s)
  | s, ch :: rest =>
    match step s ch with
    | (true, s') =>
      let (run, last) := acceptedRun step s' rest
      (ch :: run, last)
    | (false, s') => ([], s')

/-- Moves past the longest run of scalars that a predicate with a state of its own
accepts. -/
def advanceWhileState {σ : Type} (c : Cursor) (step : σ → Char → Bool × σ) (s : σ) :
    Cursor × σ :=
  let (run, last) := acceptedRun step s c.rest
  (c.advance run, last)

/-- Moves past the longest run of scalars that satisfy `accept`. -/
def advanceWhile (c : Cursor) (accept : Char → Bool) : Cursor :=
  (c.advanceWhileState (fun (_ : Unit) ch => (accept ch, ())) ()).1

/-- A predicate without a state accepts what `takeWhile` takes. -/
theorem acceptedRun_const (accept : Char → Bool) (cs : List Char) :
    (acceptedRun (fun (_ : Unit) ch => (accept ch, ())) () cs).1 = cs.takeWhile accept := by
  induction cs with
  | nil => rfl
  | cons ch cs ih =>
    cases h : accept ch <;> simp [acceptedRun, h, ih]

theorem advanceWhile_eq (c : Cursor) (accept : Char → Bool) :
    c.advanceWhile accept = c.advance (c.rest.takeWhile accept) := by
  simp [advanceWhile, advanceWhileState, acceptedRun_const]

/-! ### Coming back -/

/-- Puts a cursor aside. -/
def anchor (c : Cursor) : Anchor := ⟨c⟩

/-- Back to an anchor of the same text; forward, if the anchor lies ahead. -/
def rewind (c : Cursor) (a : Anchor) : Except Fault Cursor :=
  if c.source = a.cursor.source then .ok a.cursor else .error .foreignAnchor

/-- The text between an anchor of the same text and the cursor. -/
def consumedSince (c : Cursor) (a : Anchor) : Except Fault String :=
  if c.source = a.cursor.source then
    if a.cursor.position ≤ c.position then
      .ok (String.ofList (a.cursor.rest.take (c.position - a.cursor.position)))
    else .error .anchorAhead
  else .error .foreignAnchor

@[simp] theorem rewind_anchor (c : Cursor) : c.rewind c.anchor = .ok c := by
  simp [rewind, anchor]

end Cursor

end Backtrack
