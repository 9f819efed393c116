import Backtrack.Cli.Transcript
import Backtrack.Csv.Table

/-!
# Backtrack.Cli.Csv

**The command that prints a table**: one line for each row, with its number and its
quoted fields.
-/

namespace Backtrack.Cli

/-- The lines of some rows, numbered from `index` on. -/
def rowLines : Nat → List (List String) → List String
  | _, [] => []
  | index, row :: rows =>
    (toString index ++ ": " ++ Text.quoteList row) :: rowLines (index + 1) rows

/-- The log record of a table that was read. -/
def parsedRecord (table : Csv.Table) : Log.Record :=
  { level := .debug
    target := "example::csv"
    message := "parsed document"
    fields := [("rows", .number table.size)] }

/-- The text as a table, with the events of reading it. -/
def readTable (text : String) : Option Csv.Table × Transcript :=
  let (result, events) := (Csv.Table.ofText text : Logged _).outcome
  match result with
  | .ok (.ok table) => (some table, .report events)
  | _ => (none, .report events)

/-- Reads a table and prints its rows. The exit code says whether it is one. -/
def printTable (text : String) : Nat × Transcript :=
  match readTable text with
  | (some table, log) =>
    (0, log ++ { output := rowLines 0 table.rows, notices := [.record (parsedRecord table)] })
  | (none, log) =>
    (1, log ++ { notices := [.plain ("error: " ++ Csv.NoMatch.noMatch.message)] })

end Backtrack.Cli
