import Backtrack.Text.Quoted

/-!
# Backtrack.Fault

**Misuse of the library.** A parser that does not match answers with a failure,
which is an ordinary result. A fault is something else: a broken precondition of
an operation, such as a position beyond the end of a text or an anchor of another
text. `Halt` adds the second way in which a computation can end without a result,
namely that the bound it was given does not suffice.
-/

namespace Backtrack

/-- A broken precondition, with what is needed to report it. -/
inductive Fault
  /-- A cursor was asked for at `offset`, beyond the end of a text of `length` scalars. -/
  | offsetOutOfRange (offset length : Nat)
  /-- A cursor was to move past `expected`, which is not what comes next. -/
  | textMismatch (expected : String)
  /-- An anchor was used with a cursor of another text. -/
  | foreignAnchor
  /-- The text consumed since an anchor was asked for, but the anchor lies ahead. -/
  | anchorAhead
  /-- The value of a failed reply was demanded; `remaining` is what was left to read. -/
  | failedReply (remaining : String)
  /-- A literal of the type `typeName` does not parse. -/
  | malformedLiteral (text typeName : String)
  deriving DecidableEq, Repr

/-- The report of a fault, if it has one: an anchor ahead of its cursor has none. -/
def Fault.message : Fault → Option String
  | offsetOutOfRange offset length =>
    some s!"scalar offset {offset} is out of range for a text of {length} scalars."
  | textMismatch expected =>
    some ("the cursor does not continue with " ++ Text.quote expected ++ ".")
  | foreignAnchor => some "the anchor is not an anchor of this cursor."
  | anchorAhead => none
  | failedReply remaining =>
    some ("called ParseResult::unwrap on a Fail value; remaining input: " ++
      Text.quote remaining ++ ".")
  | malformedLiteral text typeName =>
    some (Text.quote text ++ " is not a valid `" ++ typeName ++ "` literal.")

/-- Why a computation ended without a result. -/
inductive Halt
  /-- A precondition was broken. -/
  | fault (cause : Fault)
  /-- The bound on rounds and on nested references was used up. -/
  | exhausted
  deriving DecidableEq, Repr

end Backtrack
