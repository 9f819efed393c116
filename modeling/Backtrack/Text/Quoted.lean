import Backtrack.Text.Extending
import Backtrack.Text.Unprintable

/-!
# Backtrack.Text.Quoted

**Quoted text**: the written form of a text inside messages and listings. A text
stands between double quotes; quotes and backslashes are escaped, five control
scalars have short escapes, and every other scalar that could not be seen, or
would attach itself to its neighbour, is written by its code point. A list of
texts is written between square brackets.
-/

namespace Backtrack.Text

/-- The digits of a code point in base sixteen, lower case, without leading zeros. -/
def hexDigits (n : Nat) : List Char := Nat.toDigits 16 n

/-- The written form of one scalar inside quotes. -/
def escapeChar (c : Char) : List Char :=
  if c = '"' then ['\\', '"']
  else if c = '\\' then ['\\', '\\']
  else if c = '\x00' then ['\\', '0']
  else if c = '\t' then ['\\', 't']
  else if c = '\n' then ['\\', 'n']
  else if c = '\r' then ['\\', 'r']
  else if isExtending c || isUnprintable c then
    ['\\', 'u', '\x7b'] ++ hexDigits c.toNat ++ ['\x7d']
  else [c]

/-- The written form of a run of scalars inside quotes. -/
def escape (cs : List Char) : List Char := cs.flatMap escapeChar

@[simp] theorem escape_nil : escape [] = [] := rfl

@[simp] theorem escape_cons (c : Char) (cs : List Char) :
    escape (c :: cs) = escapeChar c ++ escape cs := rfl

/-- A text between double quotes. -/
def quote (text : String) : String := String.ofList ('"' :: escape text.toList ++ ['"'])

/-- Texts between square brackets, each quoted, with a comma and a space between
neighbours. -/
def quoteList (texts : List String) : String :=
  "[" ++ ", ".intercalate (texts.map quote) ++ "]"

end Backtrack.Text
