import Backtrack.Log.Pattern.Escape
import Backtrack.Log.Pattern.Tally

/-!
# Backtrack.Log.Pattern.Bracket

**Sets of scalars in brackets.** A set lists scalars, ranges of them, kinds, named sets
of ASCII and further sets in brackets; it can be cut down by another set, and it can be
meant to hold what is not listed.

At the beginning hyphens stand for themselves, and so does a closing bracket if it is
the very first. Elsewhere a hyphen makes a range unless a closing bracket or another
hyphen follows it.
-/

namespace Backtrack.Log.Pattern

/-- A set in brackets, as far as it is read. -/
structure Bracket where
  /-- Whether only hyphens have come so far. -/
  isFresh : Bool := true
  /-- The depth of what stands in front of the last operator. -/
  left : Option Nat := none
  /-- The members behind the last operator. -/
  members : Tally := {}
  deriving DecidableEq, Repr

namespace Bracket

/-- A set with one more member. -/
def add (set : Bracket) (depth : Nat) : Bracket :=
  { set with isFresh := false, members := set.members.add depth }

/-- A set with one more hyphen in front. -/
def addHyphen (set : Bracket) : Bracket := { set with members := set.members.add 0 }

/-- How deep a set nests, without its own brackets. -/
def depth (set : Bracket) : Nat :=
  match set.left with
  | some left => max left set.members.depth + 1
  | none => set.members.depth

/-- A set behind one more operator. -/
def operate (set : Bracket) : Bracket := { isFresh := false, left := some set.depth }

/-- The names of sets of ASCII. -/
def names : List String :=
  ["alnum", "alpha", "ascii", "blank", "cntrl", "digit", "graph", "lower", "print", "punct",
   "space", "upper", "word", "xdigit"]

/-- Reads the name of a set of ASCII behind its opening bracket, and whether it is what
is not in that set that is meant. -/
def readNamed? : List Char → Option (Bool × List Char)
  | ':' :: rest =>
    let negated := rest.head? = some '^'
    let rest := if negated then rest.tail else rest
    let name := rest.takeWhile (· != ':')
    match rest.drop name.length with
    | ':' :: ']' :: rest =>
      if names.contains (String.ofList name) then some (negated, rest) else none
    | _ => none
  | _ => none

/-- Reads what may stand between an opening bracket and the members: the mark that says
that the others are meant. A set of bytes does not take it. -/
def readOpening? (mode : Mode) (cs : List Char) : Option (List Char) :=
  match mode.skip cs with
  | '^' :: rest => if mode.scalars then some rest else none
  | rest => some rest

/-- Reads one end of a range, or a member by itself; a kind of scalars gives none. -/
def readEnd? (mode : Mode) : List Char → Option (Option Char × List Char)
  | [] => none
  | '\\' :: rest =>
    (Escape.read? mode rest).bind fun (escape, rest) =>
      match escape with
      | .scalar c => if mode.admitsMember c then some (some c, rest) else none
      | .kind negated => if mode.admitsKind negated then some (none, rest) else none
      | .place _ => none
  | c :: rest => if mode.admitsMember c then some (some c, rest) else none

/-- Reads the rest of a range behind its hyphen; a range may not run backwards. -/
def readRange? (mode : Mode) (first : Option Char) (cs : List Char) : Option (List Char) :=
  (readEnd? mode (mode.skip cs)).bind fun (last, rest) =>
    match first, last with
    | some first, some last => if first ≤ last then some rest else none
    | _, _ => none

/-- Reads a member or a range. -/
def readMember? (mode : Mode) (cs : List Char) : Option (List Char) :=
  (readEnd? mode cs).bind fun (first, rest) =>
    match mode.skip rest with
    | '-' :: after =>
      if mode.ahead? after = some ']' ∨ mode.ahead? after = some '-' then some rest
      else readRange? mode first after
    | _ => some rest

/-- Reads the members of a set up to its closing bracket, and says how deep they
nest. Every step takes a scalar off the text, so its length bounds their number. -/
def readMembers? (mode : Mode) : Nat → Bracket → List Char → Option (Nat × List Char)
  | 0, _, _ => none
  | fuel + 1, set, cs =>
    match mode.skip cs with
    | [] => none
    | '[' :: rest =>
      match readNamed? rest with
      | some (negated, rest) =>
        if mode.admitsNamed negated then readMembers? mode fuel (set.add 0) rest else none
      | none =>
        (readOpening? mode rest).bind fun rest =>
        (readMembers? mode fuel {} rest).bind fun (depth, rest) =>
        readMembers? mode fuel (set.add (depth + 1)) rest
    | ']' :: rest =>
      if set.isFresh && set.members.count = 0 then
        if mode.admitsMember ']' then readMembers? mode fuel (set.add 0) rest else none
      else some (set.depth, rest)
    | '&' :: '&' :: rest => readMembers? mode fuel set.operate rest
    | '~' :: '~' :: rest => readMembers? mode fuel set.operate rest
    | c :: rest =>
      if c = '-' ∧ set.isFresh then
        if mode.admitsMember c then readMembers? mode fuel set.addHyphen rest else none
      else if c = '-' ∧ rest.head? = some '-' then
        readMembers? mode fuel set.operate rest.tail
      else
        (readMember? mode (c :: rest)).bind fun rest => readMembers? mode fuel (set.add 0) rest

/-- Reads a set behind its opening bracket, and says how deep it nests. -/
def read? (mode : Mode) (cs : List Char) : Option (Nat × List Char) :=
  (readOpening? mode cs).bind fun rest =>
  (readMembers? mode (rest.length + 1) {} rest).map fun (depth, rest) => (depth + 1, rest)

end Bracket

end Backtrack.Log.Pattern
