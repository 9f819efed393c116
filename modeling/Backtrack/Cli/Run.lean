import Backtrack.Cli.Args
import Backtrack.Cli.Demo

/-!
# Backtrack.Cli.Run

**The program as a function** of its arguments and of the filter in its
environment.
-/

namespace Backtrack.Cli

/-- What a run of the program shows. -/
structure Result where
  /-- The exit code. -/
  exit : Nat
  /-- The standard output. -/
  stdout : String
  /-- The lines beside it. -/
  stderr : List String
  deriving DecidableEq, Repr

/-- Shows records up to a level of detail, of this program and of the parsers. -/
def levelFilter (level : Log.Level) : Log.Filter :=
  ["example", "unicomb_core", "unicomb_parsers"].map fun scope =>
    { scope := scope, rank := level.rank }

/-- The filter for a count of verbose flags: nothing that this program reports, what
is useful for finding mistakes, or everything. -/
def verbosityFilter : Nat → Log.Filter
  | 0 => [{ rank := Log.Level.warn.rank }]
  | 1 => levelFilter .debug
  | _ => levelFilter .trace

/-- The filter of a run: the one in the environment, if there is one and it can be
read, or else the one for the flags. -/
def chooseFilter (environment : Option String) (verbosity : Nat) : Log.Filter :=
  (environment.bind Log.Filter.read?).getD (verbosityFilter verbosity)

/-- Carries out a command. -/
def Command.run : Command → Nat × Transcript
  | demo => (0, Cli.demo)
  | csv text => printTable text

/-- Runs the program; nothing, if the command line is not used as intended. -/
def run (args : List String) (environment : Option String) : Option Result := do
  let options ← Options.read? args
  let (exit, transcript) := options.command.run
  let filter := chooseFilter environment options.verbosity
  return {
    exit := exit
    stdout := String.join (transcript.output.map (· ++ "\n"))
    stderr := transcript.notices.filterMap (Notice.line? filter) }

end Backtrack.Cli
