import Backtrack.Cursor

/-!
# Backtrack.Reply

**What a parser answers**: a value and the cursor behind it, or a failure with the
cursor that it leaves. A well-behaved parser fails where it began, but a failure
can carry any cursor, and the combinators say what they do about it.
-/

namespace Backtrack

/-- The answer of a parser. -/
inductive Reply (α : Type)
  /-- A match of `value` that ends at `rest`. -/
  | done (value : α) (rest : Cursor)
  /-- No match; `rest` is the cursor that the parser hands back. -/
  | fail (rest : Cursor)
  deriving DecidableEq, Repr

namespace Reply

variable {α β : Type}

/-- Applies `f` to the value of a match. -/
def map (f : α → β) : Reply α → Reply β
  | done value rest => done (f value) rest
  | fail rest => fail rest

/-- Whether it is a match. -/
def isDone : Reply α → Bool
  | done _ _ => true
  | fail _ => false

/-- The cursor of a match or of a failure. -/
def rest : Reply α → Cursor
  | done _ rest => rest
  | fail rest => rest

/-- The value of a match, if there is one. -/
def value? : Reply α → Option α
  | done value _ => some value
  | fail _ => none

/-- The value and the cursor of a match; a failure is a fault of the caller. -/
def get : Reply α → Except Fault (α × Cursor)
  | done value rest => .ok (value, rest)
  | fail rest => .error (.failedReply rest.remaining)

@[simp] theorem map_done (f : α → β) (value : α) (c : Cursor) :
    (done value c).map f = done (f value) c := rfl

@[simp] theorem map_fail (f : α → β) (c : Cursor) : (fail c : Reply α).map f = fail c := rfl

@[simp] theorem rest_map (f : α → β) (r : Reply α) : (r.map f).rest = r.rest := by
  cases r <;> rfl

@[simp] theorem isDone_map (f : α → β) (r : Reply α) : (r.map f).isDone = r.isDone := by
  cases r <;> rfl

end Reply

end Backtrack
