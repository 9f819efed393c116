import Backtrack.Cli.Csv

/-!
# Backtrack.Cli.Demo

**The demonstrations**: a repetition, with and without a delimiter; the two kinds of
choice on the same candidates; and the table grammar.
-/

namespace Backtrack.Cli

open Backtrack.Parser

/-- The value and the rest of a match, in a computation that keeps its events. -/
def attempt {α : Type} (p : Parser Logged α) (text : String) : Option α × String × List Event :=
  match (p.runFrom text 0).outcome with
  | (.ok (value, rest), events) => (value, rest, events)
  | (.error _, events) => (none, "", events)

/-- A quoted text, as a value that may be missing. -/
def quoteOption : Option String → String
  | some text => "Some(" ++ Text.quote text ++ ")"
  | none => "None"

/-- Repetition: fixed texts side by side, and numbers between commas. -/
def repeatDemo : Transcript :=
  let (texts, rest, events) :=
    attempt (many ((literal "text").as "text") noDelimiter) "texttexttextaaaa"
  let (numbers, rest', events') := attempt (commaSeparated nonNegativeInteger) "1, 2,3 ,4"
  .report events ++ .report events' ++
    .say
      ["----- repeat example -----", "",
       "result: " ++ Text.quoteList (texts.getD []),
       "  rest: " ++ rest,
       "result: [" ++ ", ".intercalate ((numbers.getD []).map fun n => toString n.toNat) ++ "]",
       "  rest: " ++ rest', ""]

/-- Choice: of two candidates the earliest, and the one that reaches furthest. -/
def choiceDemo : Transcript :=
  let keywords : List (Parser Logged String) := [literalAs "in" "in", literalAs "int" "int"]
  let (value, rest, events) := attempt (first keywords) "int x"
  let (value', rest', events') := attempt (longest keywords) "int x"
  .report events ++ .report events' ++
    .say
      ["----- alternation example -----", "",
       "  first: " ++ quoteOption value ++ ", rest: " ++ Text.quote rest,
       "longest: " ++ quoteOption value' ++ ", rest: " ++ Text.quote rest', ""]

/-- Tables: a literal, a text that is a table, and one that is none. -/
def tableDemo : Transcript :=
  let (table, log) := readTable "one,2,,three\nfive,six,\"hello,q\""
  log ++
    .say
      (["----- csv example -----", ""] ++
        ((table.getD {}).rows.map Text.quoteList) ++ [""]) ++
    (printTable "a,\"b,c\"").2 ++
    (readTable "a,b,").2

/-- All demonstrations in order. -/
def demo : Transcript := repeatDemo ++ choiceDemo ++ tableDemo

end Backtrack.Cli
