import Backtrack.Event
import Backtrack.Log.Filter

/-!
# Backtrack.Cli.Transcript

**What a command leaves behind**: lines on the standard output, and on the other
stream log records and plain lines in the order in which they come up. Which of the
records are shown is decided in the end by a filter.
-/

namespace Backtrack.Cli

/-- An entry beside the standard output. -/
inductive Notice
  /-- A log record, shown if the filter lets it through. -/
  | record (record : Log.Record)
  /-- A line that is always shown. -/
  | plain (line : String)
  deriving DecidableEq, Repr

/-- The line of a notice, if it is shown. -/
def Notice.line? (filter : Log.Filter) : Notice → Option String
  | record r => if filter.shows r then some r.render else none
  | plain line => some line

/-- What a command has said so far. -/
structure Transcript where
  /-- Lines of the standard output. -/
  output : List String := []
  /-- Entries beside it. -/
  notices : List Notice := []
  deriving DecidableEq, Repr

namespace Transcript

instance : Append Transcript where
  append a b := ⟨a.output ++ b.output, a.notices ++ b.notices⟩

/-- Lines of the standard output alone. -/
def say (lines : List String) : Transcript := { output := lines }

/-- The log records of some events alone. -/
def report (events : List Event) : Transcript :=
  { notices := events.map fun event => .record event.record }

end Transcript

end Backtrack.Cli
