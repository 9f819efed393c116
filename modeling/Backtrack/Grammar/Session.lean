import Backtrack.Grammar.Interpret

/-!
# Backtrack.Grammar.Session

**Calls on one parser.** A session holds a grammar, its rules, and the memory of
what has been built. Calls are made one after the other; each answers with its
result and with the events that it reported.
-/

namespace Backtrack

/-- A use of a parser on a text. -/
inductive Call
  /-- The reply from the scalar `offset` of the text on. -/
  | parse (text : Source) (offset : Nat)
  /-- A match from the scalar `offset` on, which need not reach the end. -/
  | runFrom (text : Source) (offset : Nat)
  /-- A match of the whole text. -/
  | run (text : Source)
  deriving DecidableEq, Repr

/-- What a call answers. -/
inductive Answer
  /-- The reply of `Call.parse`. -/
  | reply (reply : Reply Value)
  /-- The value, if there is a match, and what is left of the text. -/
  | someMatch (value : Option Value) (rest : String)
  /-- The value, if the whole text matches. -/
  | wholeMatch (value : Option Value)
  deriving DecidableEq, Repr

/-- Makes a call on a parser. -/
def Call.perform {m : Type → Type} [ParseMonad m] (p : Parser m Value) : Call → m Answer
  | parse text offset => do
    return .reply (← p.parse (← checked (Cursor.locate text offset)))
  | runFrom text offset => do
    let (value, rest) ← p.runFrom text offset
    return .someMatch value rest
  | run text => do return .wholeMatch (← p.run text)

/-- A parser and what it has built so far. -/
structure Session where
  /-- The named rules. -/
  rules : Rules
  /-- The grammar of the parser. -/
  root : Grammar
  /-- The bound on nested references and on the rounds of a repetition. -/
  fuel : Nat
  /-- What earlier calls have built. -/
  memory : Memory := {}

/-- How a call ended, and what it reported on the way. -/
structure Outcome where
  /-- The answer, or why there is none. -/
  result : Except Halt Answer
  /-- The events of the call, the earliest first. -/
  events : List Event

namespace Session

/-- Makes a call; the session that comes back remembers what the call has built. -/
def call (s : Session) (request : Call) : Outcome × Session :=
  let computation : Remembering Answer := request.perform (s.root.interpret s.rules s.fuel)
  let (result, memory) := computation.runOn { s.memory with events := [] }
  (⟨result, memory.events.reverse⟩, { s with memory := memory })

/-- Makes some calls in order. -/
def calls (s : Session) : List Call → List Outcome × Session
  | [] => ([], s)
  | request :: requests =>
    let (outcome, s') := s.call request
    let (outcomes, last) := s'.calls requests
    (outcome :: outcomes, last)

end Session

end Backtrack
