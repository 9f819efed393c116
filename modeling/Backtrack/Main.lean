import Backtrack.Cli.Run

/-!
# Backtrack.Main

**The program.** `demo` walks through the demonstrations, `csv TEXT` prints the rows of
a table; `RUST_LOG` holds a filter for the log.
-/

/-- Runs the command line and hands on the exit code. -/
def main (args : List String) : IO UInt32 := do
  match Backtrack.Cli.run args (← IO.getEnv "RUST_LOG") with
  | none =>
    IO.eprintln "usage: [-v]... [demo | csv TEXT]"
    return 2
  | some result =>
    IO.print result.stdout
    result.stderr.forM fun line => IO.eprintln line
    return UInt32.ofNat result.exit
