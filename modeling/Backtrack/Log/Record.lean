import Backtrack.Text.Quoted

/-!
# Backtrack.Log.Record

**Log records**: a level, the place that reports, a message and fields, which hold
numbers or texts, and the line in which a record is written.
-/

namespace Backtrack.Log

/-- Levels of detail, from the gravest to the most talkative. -/
inductive Level
  | error
  | warn
  | info
  | debug
  | trace
  deriving DecidableEq, Repr

namespace Level

/-- The place of a level in the order of detail. -/
def rank : Level → Nat
  | error => 1
  | warn => 2
  | info => 3
  | debug => 4
  | trace => 5

/-- The name of a level at the start of a log line. -/
def label : Level → String
  | error => "ERROR"
  | warn => "WARN"
  | info => "INFO"
  | debug => "DEBUG"
  | trace => "TRACE"

end Level

/-- What a field of a record holds. -/
inductive Datum
  | number (n : Nat)
  | text (s : String)
  deriving DecidableEq, Repr

/-- The written form of a field: a number in decimal, a text between quotes. -/
def Datum.render : Datum → String
  | number n => toString n
  | text s => Text.quote s

/-- One entry of a log. -/
structure Record where
  /-- How detailed the entry is. -/
  level : Level
  /-- The place that reports it. -/
  target : String
  /-- What happened. -/
  message : String
  /-- What goes with it, in the order in which it is written. -/
  fields : List (String × Datum)
  deriving DecidableEq, Repr

/-- The names of the fields of a record; its message is one of them. -/
def Record.fieldNames (record : Record) : List String :=
  "message" :: record.fields.map Prod.fst

/-- The line of a record: level, target and message, then ` name=value` for each field. -/
def Record.render (record : Record) : String :=
  record.level.label ++ " " ++ record.target ++ ": " ++ record.message ++
    String.join (record.fields.map fun field => " " ++ field.1 ++ "=" ++ field.2.render)

end Backtrack.Log
