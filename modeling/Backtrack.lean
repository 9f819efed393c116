import Backtrack.Cli.Args
import Backtrack.Cli.Csv
import Backtrack.Cli.Demo
import Backtrack.Cli.Run
import Backtrack.Cli.Transcript
import Backtrack.Csv.Grammar
import Backtrack.Csv.Rule
import Backtrack.Csv.Table
import Backtrack.Cursor
import Backtrack.Event
import Backtrack.Fault
import Backtrack.Grammar.Basic
import Backtrack.Grammar.Continuation
import Backtrack.Grammar.Custom
import Backtrack.Grammar.Interpret
import Backtrack.Grammar.Memory
import Backtrack.Grammar.Session
import Backtrack.Log.Directive
import Backtrack.Log.Filter
import Backtrack.Log.Pattern
import Backtrack.Log.Pattern.Bracket
import Backtrack.Log.Pattern.Escape
import Backtrack.Log.Pattern.Mode
import Backtrack.Log.Pattern.Opening
import Backtrack.Log.Pattern.Tally
import Backtrack.Log.Record
import Backtrack.Main
import Backtrack.Parsable
import Backtrack.Parser.Basic
import Backtrack.Parser.Choice
import Backtrack.Parser.Integer
import Backtrack.Parser.Primitive
import Backtrack.Parser.Repeat
import Backtrack.Parser.Sequence
import Backtrack.Reply
import Backtrack.Site
import Backtrack.Text.Alphabetic
import Backtrack.Text.Alphanumeric
import Backtrack.Text.Blank
import Backtrack.Text.Extending
import Backtrack.Text.Numeric
import Backtrack.Text.Quoted
import Backtrack.Text.Ranges
import Backtrack.Text.Unprintable
import Backtrack.Text.Utf8
import Backtrack.Value
import Backtrack.Proofs.Manners
import Backtrack.Proofs.Grammar.Composition
import Backtrack.Proofs.Grammar.Simulation
import Backtrack.Proofs.Grammar.Forgetting
import Backtrack.Proofs.Grammar.Manners
import Backtrack.Proofs.Grammar.Termination
import Backtrack.Proofs.Grammar.Shift
import Backtrack.Proofs.Csv.Reading
import Backtrack.Proofs.Csv.Scanner
import Backtrack.Proofs.Csv.Rendering
import Backtrack.Proofs.Csv.Splitting
import Backtrack.Proofs.Csv.Joining
import Backtrack.Proofs.Csv.Shape
import Backtrack.Proofs.Csv.Stopping
import Backtrack.Proofs.Csv.Lines
import Backtrack.Proofs.Places
import Backtrack.Proofs.Slices
import Backtrack.Proofs.Quoting
import Backtrack.Proofs.Csv.Logging
import Backtrack.Proofs.Cli.Printing
import Backtrack.Proofs.Grammar.Replay
import Backtrack.Proofs.Conduct
import Backtrack.Proofs.Repetition
import Backtrack.Proofs.Shortcut
import Backtrack.Proofs.Containment
import Backtrack.Proofs.Flattening
import Backtrack.Proofs.Selection
import Backtrack.Proofs.Sequencing
import Backtrack.Proofs.Numerals
import Backtrack.Proofs.Probing
import Backtrack.Proofs.Cutting
import Backtrack.Proofs.NumberLists
import Backtrack.Proofs.Literals
import Backtrack.Proofs.Grammar.Nesting
import Backtrack.Proofs.Grammar.Values
import Backtrack.Proofs.Grammar.Rejection
