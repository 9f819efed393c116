import Backtrack.Log.Pattern
import Backtrack.Log.Record
import Backtrack.Text.Alphanumeric
import Backtrack.Text.Blank
import Backtrack.Text.Utf8

/-!
# Backtrack.Log.Directive

**One entry of a log filter.** A directive sets the level of detail for some records:
those of the targets that begin with its scope, and, if it names a field, only those
that have it. It is written

* `level`, for all targets;
* `target`, which shows everything there;
* `target=level`, where an empty level again shows everything;
* `target[span{field}]=level`, with parts left out, for what happens inside a span.

Nothing here happens inside a span, so a directive that speaks of one, or of the value
of a field, is understood but covers no record. The value of a field stands behind an
equals sign, and is a number or a pattern.

A level is one of six names, in either case, or a number up to five. A target begins
with a letter, a number, or one of `-`, `:` and `_`; what follows is free. The parts are
looked for in the text without the white space around it, but cut out at the places so
found from the text as it stands: a blank in front shifts every part, and a blank behind
belongs to the last one.
-/

namespace Backtrack.Log

open Backtrack.Text

/-- How detailed some records may be. -/
structure Directive where
  /-- The beginning of the targets that are meant; empty for all. -/
  scope : String := ""
  /-- A field that a record has to have. -/
  field : Option String := none
  /-- Whether only records inside a span, or with a given value of a field, are meant. -/
  bound : Bool := false
  /-- The most detailed rank that is shown; zero shows nothing. -/
  rank : Nat
  deriving DecidableEq, Repr

namespace Directive

/-- Whether a directive speaks of a record. -/
def covers (directive : Directive) (record : Record) : Bool :=
  !directive.bound &&
    directive.scope.toList.isPrefixOf record.target.toList &&
    directive.field.all record.fieldNames.contains

/-- Whether the first of two directives that cover one record is closer to it: by its
scope, by naming a field, or else by the greater name. -/
def isCloser (a b : Directive) : Bool :=
  b.scope.length < a.scope.length ||
    (a.scope.length == b.scope.length &&
      match a.field, b.field with
      | some _, none => true
      | some x, some y => y < x
      | none, _ => false)

/-! ### Reading -/

/-- The number that a run of digits stands for, which a plus sign may precede. -/
def readNumber? (cs : List Char) : Option Nat :=
  let digits := if cs.head? = some '+' then cs.tail else cs
  if digits.all Char.isDigit && !digits.isEmpty then
    some (digits.foldl (fun n digit => 10 * n + (digit.toNat - '0'.toNat)) 0)
  else none

/-- The rank that a level stands for. -/
def readRank? (cs : List Char) : Option Nat :=
  match readNumber? cs with
  | some n => if n ≤ Level.trace.rank then some n else none
  | none =>
    [("off", 0), ("error", Level.error.rank), ("warn", Level.warn.rank),
     ("info", Level.info.rank), ("debug", Level.debug.rank),
     ("trace", Level.trace.rank)].lookup (String.ofList (cs.map Char.toLower))

/-- The rank of a level behind an equals sign; an empty one shows everything. -/
def readLevel? (cs : List Char) : Option Nat :=
  if cs.isEmpty then some Level.trace.rank else readRank? cs

/-- A text without a sign in front. -/
def dropSign : List Char → List Char
  | '+' :: rest => rest
  | '-' :: rest => rest
  | rest => rest

/-- Whether a text is nothing, or the exponent of a number. -/
def isExponent : List Char → Bool
  | [] => true
  | mark :: rest =>
    let digits := dropSign rest
    (mark == 'e' || mark == 'E') && !digits.isEmpty && digits.all Char.isDigit

/-- Whether a text is a decimal number, infinity or the mark of no number. -/
def isNumber (cs : List Char) : Bool :=
  let unsigned := dropSign cs
  let whole := unsigned.takeWhile Char.isDigit
  let rest := unsigned.drop whole.length
  ["inf", "infinity", "nan"].contains (String.ofList (unsigned.map Char.toLower)) ||
    match rest with
    | '.' :: rest =>
      let fraction := rest.takeWhile Char.isDigit
      !(whole ++ fraction).isEmpty && isExponent (rest.drop fraction.length)
    | rest => !whole.isEmpty && isExponent rest

/-- Whether the value of a field can be read. -/
def isValue (cs : List Char) : Bool := isNumber cs || isPattern cs

/-- Whether a field can be read: its value, if it has one, goes up to another equals
sign. -/
def isField (cs : List Char) : Bool :=
  match cs.dropWhile (· != '=') with
  | _ :: value => isValue (value.takeWhile (· != '='))
  | [] => !cs.isEmpty

/-- Whether a target can begin with a scalar. -/
def startsTarget (c : Char) : Bool := c == '-' || c == ':' || c == '_' || isAlphanumeric c

/-- A text without the white space around it. -/
def trim (cs : List Char) : List Char :=
  ((cs.dropWhile isBlank).reverse.dropWhile isBlank).reverse

/-- Finishes a directive behind its closing bracket, with `rest` left of it at the
offset `start`. -/
def readEnd? (whole : List Char) (directive : Directive) (start : Nat) (rest : List Char) :
    Option Directive :=
  match rest with
  | [] => some directive
  | '=' :: _ => (readLevel? (dropBytes (start + 1) whole)).map ({ directive with rank := · })
  | _ => none

/-- Reads the field of a directive, which began at the offset `start`. -/
def readField? (whole : List Char) (directive : Directive) (start : Nat) (rest : List Char) :
    Option Directive :=
  let run := rest.takeWhile (· != '\x7d')
  let stop := start + utf8Length run
  match rest.drop run.length with
  | '\x7d' :: ']' :: rest =>
    let field := sliceBytes start stop whole
    if isField field then
      readEnd? whole
        { directive with
          field := some (String.ofList (field.takeWhile (· != '=')))
          bound := directive.bound || field.contains '=' }
        (stop + 2) rest
    else none
  | _ => none

/-- Reads the span of a directive, which began at the offset `start`. -/
def readSpan? (whole : List Char) (scope : List Char) (start : Nat) (rest : List Char) :
    Option Directive :=
  let run := rest.takeWhile fun c => c != ']' && c != '\x7b'
  let stop := start + utf8Length run
  let directive : Directive := { scope := String.ofList scope, rank := Level.trace.rank }
  match rest.drop run.length with
  | ']' :: rest => readEnd? whole { directive with bound := true } (stop + 1) rest
  | _ :: rest =>
    let bound := !(sliceBytes start stop whole).isEmpty
    readField? whole { directive with bound := bound } (stop + 1) rest
  | [] => none

/-- Reads a level or a target that stands alone. -/
def readBare (whole : List Char) : Directive :=
  match readRank? whole with
  | some rank => { rank := rank }
  | none => { scope := String.ofList whole, rank := Level.trace.rank }

/-- Reads a directive. -/
def read? (whole : List Char) : Option Directive :=
  match trim whole with
  | [] => none
  | '[' :: rest => readSpan? whole [] 1 rest
  | c :: rest =>
    if startsTarget c then
      let run := (c :: rest).takeWhile fun c => c != '=' && c != '['
      let stop := utf8Length run
      let scope := takeBytes stop whole
      match (c :: rest).drop run.length with
      | [] => some (readBare whole)
      | '=' :: _ =>
        (readLevel? (dropBytes (stop + 1) whole)).map fun rank =>
          { scope := String.ofList scope, rank := rank }
      | _ :: rest => readSpan? whole scope (stop + 1) rest
    else none

end Directive

end Backtrack.Log
