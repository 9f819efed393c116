import Backtrack.Log.Pattern.Mode

/-!
# Backtrack.Log.Pattern.Escape

**What a backslash introduces in a pattern**: a scalar that is written by its code or
that would otherwise have a meaning, a kind of scalars such as the digits, or a place in
the text such as its end.
-/

namespace Backtrack.Log.Pattern

/-- What a backslash introduces. -/
inductive Escape where
  /-- A single scalar. -/
  | scalar (c : Char)
  /-- The digits, the spaces or the word characters, or what is none of them. -/
  | kind (negated : Bool)
  /-- A place in the text, which may be the edge of a word. -/
  | place (ofWord : Bool)
  deriving DecidableEq, Repr

namespace Escape

/-- The value of a hexadecimal digit. -/
def hexValue? (c : Char) : Option Nat :=
  if c.isDigit then some (c.toNat - '0'.toNat)
  else if 'a' ≤ c ∧ c ≤ 'f' then some (c.toNat - 'a'.toNat + 10)
  else if 'A' ≤ c ∧ c ≤ 'F' then some (c.toNat - 'A'.toNat + 10)
  else none

/-- Reads so many hexadecimal digits behind those that stand for `value`. -/
def readHex? (mode : Mode) : Nat → Nat → List Char → Option (Nat × List Char)
  | 0, value, cs => some (value, cs)
  | digits + 1, value, cs =>
    match mode.skip cs with
    | [] => none
    | c :: rest =>
      (hexValue? c).bind fun digit => readHex? mode digits (16 * value + digit) rest

/-- Reads a scalar that is written by its code with so many digits. -/
def readCode? (mode : Mode) (digits : Nat) (cs : List Char) : Option (Escape × List Char) :=
  (readHex? mode digits 0 cs).bind fun (code, rest) =>
    if code.isValidChar then some (.scalar (Char.ofNat code), rest) else none

/-- The letters that stand for a control character. -/
def controls : List (Char × Char) :=
  [('a', '\x07'), ('f', '\x0c'), ('n', '\n'), ('r', '\r'), ('t', '\t'), ('v', '\x0b')]

/-- What one scalar behind a backslash stands for. Any ASCII mark stands for itself,
except the two that mean an edge of a word. -/
def ofChar? (c : Char) : Option Escape :=
  match controls.lookup c with
  | some control => some (.scalar control)
  | none =>
    if ['d', 's', 'w'].contains c then some (.kind false)
    else if ['D', 'S', 'W'].contains c then some (.kind true)
    else if ['A', 'z'].contains c then some (.place false)
    else if ['b', 'B', '<', '>'].contains c then some (.place true)
    else if c.toNat < 0x80 && !c.isAlphanum then some (.scalar c)
    else none

/-- Reads what follows a backslash. A code of two digits is a byte in a pattern of
bytes, and then has to be ASCII. -/
def read? (mode : Mode) : List Char → Option (Escape × List Char)
  | [] => none
  | 'x' :: rest =>
    (readCode? mode 2 rest).filter fun (escape, _) =>
      match escape with
      | .scalar c => mode.scalars || c.toNat < 0x80
      | _ => true
  | 'u' :: rest => readCode? mode 4 rest
  | 'U' :: rest => readCode? mode 8 rest
  | c :: rest => (ofChar? c).map (·, rest)

/-- Whether an escape can stand by itself. -/
def isAvailable (mode : Mode) : Escape → Bool
  | .scalar _ => mode.comparesScalars
  | .kind negated => mode.admitsKind negated
  | .place ofWord => !(ofWord && mode.scalars)

end Escape

end Backtrack.Log.Pattern
