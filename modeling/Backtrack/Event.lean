import Backtrack.Log.Record
import Backtrack.Site

/-!
# Backtrack.Event

**What parsing reports while it runs.** Three things are worth a log entry: a match
that is thrown away because it leaves input behind, the building of a deferred
parser, and a repetition that stops because a round consumed nothing.
-/

namespace Backtrack

/-- An event of parsing. -/
inductive Event
  /-- A match of an input of `inputBytes` bytes left `trailingBytes` of them unread. -/
  | rejected (inputBytes trailingBytes : Nat)
  /-- The deferred parser at `site` was reached for the first time and built; `parser`
  is the name of its type. -/
  | built (site : Site) (parser : String)
  /-- A repetition stopped at `position`, where a whole round consumed nothing. -/
  | stalled (position : Nat)
  deriving DecidableEq, Repr

/-- The log record of an event. -/
def Event.record : Event → Log.Record
  | rejected inputBytes trailingBytes =>
    { level := .trace
      target := "unicomb_core::parser"
      message := "match rejected, input left unconsumed"
      fields :=
        [("input_bytes", .number inputBytes), ("trailing_bytes", .number trailingBytes)] }
  | built _ parser =>
    { level := .debug
      target := "unicomb_parsers::combinator::lazy"
      message := "building deferred parser"
      fields := [("parser", .text parser)] }
  | stalled position =>
    { level := .debug
      target := "unicomb_parsers::combinator::repeat"
      message := "repetition stopped, a delimiter and element consumed nothing"
      fields := [("position", .number position)] }

end Backtrack
