/-!
# Backtrack.Cli.Args

**The command line.** A command is `demo`, which is also the default, or `csv` with a
text. The flag `-v` (`--verbose`) counts; it may stand before or after the name of
the command, and then those after it replace those before it. Behind `--` nothing is
a flag any more.
-/

namespace Backtrack.Cli

/-- What to do. -/
inductive Command
  /-- Walk through the demonstrations. -/
  | demo
  /-- Read a table from `text` and print its rows. -/
  | csv (text : String)
  deriving DecidableEq, Repr

/-- A command line that has been understood. -/
structure Options where
  /-- How often more detail was asked for. -/
  verbosity : Nat
  /-- The command. -/
  command : Command
  deriving DecidableEq, Repr

/-! ### Arguments -/

/-- What a single argument is. -/
inductive Argument
  /-- The flag for more detail, given `count` times. -/
  | verbose (count : Nat)
  /-- From here on there are no flags. -/
  | endOfFlags
  /-- A name or a text. -/
  | word (text : String)
  /-- A flag that does not exist. -/
  | unknown
  deriving DecidableEq, Repr

/-- Tells what an argument is. A single dash is a word. -/
def Argument.ofString (arg : String) : Argument :=
  if arg = "--" then endOfFlags
  else if arg = "--verbose" then verbose 1
  else
    match arg.toList with
    | '-' :: flag :: flags =>
      if (flag :: flags).all (· == 'v') then verbose (flag :: flags).length else unknown
    | _ => word arg

/-- The number of verbose flags among some arguments, if there are any, and the words.
Nothing, if there is an unknown flag. -/
def collect : List String → Option (Option Nat × List String)
  | [] => some (none, [])
  | arg :: args =>
    match Argument.ofString arg with
    | .unknown => none
    | .endOfFlags => some (none, args)
    | .word text => (collect args).map fun (count, words) => (count, text :: words)
    | .verbose n => (collect args).map fun (count, words) => (some (n + count.getD 0), words)

/-- The arguments of a command, as far as the words go. -/
def Command.ofWords? : String → List String → Option Command
  | "demo", [] => some demo
  | "csv", [text] => some (csv text)
  | _, _ => none

/-- Reads the arguments, where `verbosity` flags stood before them. -/
def Options.readFrom? : Nat → List String → Option Options
  | verbosity, [] => some ⟨verbosity, .demo⟩
  | verbosity, arg :: args =>
    match Argument.ofString arg with
    | .unknown => none
    | .endOfFlags => if args.isEmpty then some ⟨verbosity, .demo⟩ else none
    | .verbose n => readFrom? (verbosity + n) args
    | .word name => do
      let (count, words) ← collect args
      return ⟨count.getD verbosity, ← Command.ofWords? name words⟩

/-- Reads a command line; nothing, if it is not used as intended. -/
def Options.read? (args : List String) : Option Options := Options.readFrom? 0 args

end Backtrack.Cli
