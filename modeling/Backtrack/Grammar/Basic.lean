import Backtrack.Parser.Basic
import Backtrack.Value

/-!
# Backtrack.Grammar.Basic

**Grammars as data.** A grammar says how a parser is put together, so that it can
be built while a program runs and refer to named rules, also recursively. What a
grammar means is told by `Backtrack.Grammar.Interpret`. The grammars at the end are
put together from the constructors.
-/

namespace Backtrack

/-- How a parser is put together. -/
inductive Grammar
  /-- One scalar. -/
  | anyChar
  /-- A fixed text. -/
  | literal (text : String)
  /-- A decimal numeral of a 64-bit word. -/
  | integer
  /-- A run of white space, which may be empty. -/
  | blank
  /-- The scalars before the first match of `delimiter`, or all that are left. -/
  | charactersUntil (delimiter : Grammar)
  /-- A match of nothing, with a fixed value. -/
  | always (value : Value)
  /-- No match. -/
  | never
  /-- The value goes through `f`. -/
  | map (f : Value → Value) (g : Grammar)
  /-- The value of `g` chooses what comes next. A parser is made for it at every
  invocation, but for the parts that are `shared`. -/
  | bind (g : Grammar) (next : Value → Grammar)
  /-- All members in order, with the tuple of their values. -/
  | zip (members : List Grammar)
  /-- The earliest candidate that matches. -/
  | first (candidates : List Grammar)
  /-- The candidate whose match reaches furthest. -/
  | longest (candidates : List Grammar)
  /-- Zero or more elements with a delimiter between neighbours. -/
  | many (element delimiter : Grammar)
  /-- The same parser behind a handle. -/
  | boxed (g : Grammar)
  /-- A parser that the continuation around it was made with and hands out whenever it
  is invoked; equal indices mean the same parser. It belongs to the innermost
  continuation. A parser that an inner continuation captures from outside an outer one
  is written by sharing it in the inner one, and the whole `bind` of the inner one in
  the outer one. A parser that the factories of two references hand out cannot be
  expressed, as every reference builds a body of its own. -/
  | shared (index : Nat) (g : Grammar)
  /-- The rule `name`, built when parsing first gets here and kept from then on. -/
  | deferred (name : String)
  /-- A parser written as a function, which may break the manners of the others. -/
  | custom (reply : Cursor → Silent (Reply Value))

namespace Grammar

/-- Forgets the value. -/
def discard (g : Grammar) : Grammar := map (fun _ => .unit) g

/-- Gives every match the value `value`. -/
def as (value : Value) (g : Grammar) : Grammar := map (fun _ => value) g

/-- Applies a mapping to the value. -/
def mapped (f : Mapping) (g : Grammar) : Grammar := map f.apply g

/-- A fixed text that stands for `value`. -/
def literalAs (text : String) (value : Value) : Grammar := (literal text).as value

/-- The earliest of some fixed texts that matches, standing for `value`. -/
def firstLiteral (texts : List String) (value : Value) : Grammar :=
  (first (texts.map literal)).as value

/-- The longest of some fixed texts that matches, standing for `value`. -/
def longestLiteral (texts : List String) (value : Value) : Grammar :=
  (longest (texts.map literal)).as value

/-- The first of two candidates that matches. -/
def or (g h : Grammar) : Grammar := first [g, h]

/-- Separates neighbours by nothing at all. -/
def noDelimiter : Grammar := always .unit

/-- A comma and the white space after it. -/
def comma : Grammar := (zip [literal ",", blank]).discard

/-- Zero or more elements with a comma between neighbours. -/
def commaSeparated (element : Grammar) : Grammar := many element comma

end Grammar

/-- What a name stands for. The name of the type is the compiler's choice: it tells
mapping functions apart, and types of values, so it cannot be told from the body. -/
structure Rule where
  /-- The name of the type of the parser, which is reported when it is built. -/
  typeName : String
  /-- How the parser is put together. -/
  body : Grammar

/-- The named rules that grammars refer to. -/
abbrev Rules := List (String × Rule)

namespace Rules

/-- The rule of a name. A name without a rule stands for a parser that never matches. -/
def rule (rules : Rules) (name : String) : Rule := (rules.lookup name).getD ⟨"", .never⟩

/-- The body of the rule of a name. -/
def body (rules : Rules) (name : String) : Grammar := (rules.rule name).body

/-- The name of the type of the rule of a name. -/
def typeName (rules : Rules) (name : String) : String := (rules.rule name).typeName

end Rules

end Backtrack
