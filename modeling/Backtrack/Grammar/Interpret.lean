import Backtrack.Grammar.Memory
import Backtrack.Parser.Choice
import Backtrack.Parser.Integer
import Backtrack.Parser.Repeat

/-!
# Backtrack.Grammar.Interpret

**The parser of a grammar.** Each constructor stands for its combinator; a
reference to a rule is parsed by the body of the rule.

Every reference is built at its `Site`. To know it, the interpretation keeps track of
the `Spot` at which it is: the parts of a grammar are numbered, each building has a
body of its own, and each invocation of a continuation is a branch of its own.

References can go on for ever, as can repetitions. The argument `fuel` bounds the
nesting of references and the rounds of each repetition; a computation that needs
more halts as exhausted.
-/

namespace Backtrack

namespace Grammar

variable {m : Type → Type} [GrammarMonad m]

mutual

/-- The parser of a grammar at a spot, where `call` parses references. -/
def parser (fuel : Nat) (call : Site → Parser m Value) (spot : Spot) : Grammar → Parser m Value
  | anyChar => Parser.anyChar.map .char
  | literal text => (Parser.literal text).as .unit
  | integer => Parser.nonNegativeInteger.map fun n => .int n.toNat
  | blank => Parser.skipBlank.as .unit
  | charactersUntil delimiter =>
    (Parser.charactersUntil (parser fuel call (spot.part 0) delimiter)).map .text
  | always value => Parser.always value
  | never => Parser.never
  | map f g => (parser fuel call (spot.part 0) g).map f
  | bind g next =>
    (parser fuel call (spot.part 0) g).bind fun value =>
      { parse := fun c => do
          let number ← GrammarMonad.branch
          (parser fuel call (spot.branch number) (next value)).parse c }
  | zip members => (Parser.sequence (parsers fuel call spot 0 members)).map .tuple
  | first candidates => Parser.first (parsers fuel call spot 0 candidates)
  | longest candidates => Parser.longest (parsers fuel call spot 0 candidates)
  | many element delimiter =>
    (Parser.zeroOrMore fuel (parser fuel call (spot.part 0) element)
      (parser fuel call (spot.part 1) delimiter)).map .list
  | boxed g => parser fuel call (spot.part 0) g
  | shared index g => parser fuel call (spot.shared index) g
  | deferred name => call (spot.site name)
  | custom reply =>
    { parse := fun c =>
        match reply c with
        | .ok r => pure r
        | .error cause => ParseMonad.halt cause }

/-- The parsers of some parts at a spot, numbered from `index` on. -/
def parsers (fuel : Nat) (call : Site → Parser m Value) (spot : Spot) (index : Nat) :
    List Grammar → List (Parser m Value)
  | [] => []
  | g :: gs => parser fuel call (spot.part index) g :: parsers fuel call spot (index + 1) gs

end

/-- The parser of a reference: build it unless that has been done, and parse with
what was built. -/
def callRule (rules : Rules) : Nat → Site → Parser m Value
  | 0, _ => { parse := fun _ => ParseMonad.halt .exhausted }
  | fuel + 1, site =>
    { parse := fun c => do
        let building ← GrammarMonad.build site (rules.rule site.rule)
        (parser fuel (callRule rules fuel) (.body building.number) building.body).parse c }

/-- The parser of a grammar over some rules. -/
def interpret (rules : Rules) (fuel : Nat) (g : Grammar) : Parser m Value :=
  parser fuel (callRule rules fuel) {} g

end Grammar

end Backtrack
