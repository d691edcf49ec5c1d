import LayerScript.Text.Alphanumeric
import LayerScript.Text.Blank
import LayerScript.Text.Casing
import LayerScript.Text.Search
import LayerScript.Text.Position
import LayerScript.Decimal.Binary64
import LayerScript.Decimal.Integer
import LayerScript.Decimal.Numeral
import LayerScript.Dict
import LayerScript.Json.Reader
import LayerScript.Json.Printer
import LayerScript.Token.Lexer
import LayerScript.Program.Parser
import LayerScript.Value.Display
import LayerScript.Value.Equality
import LayerScript.Value.Document
import LayerScript.Native.Plain
import LayerScript.Native.Prelude
import LayerScript.Machine.Call
import LayerScript.Console.Panel
import LayerScript.Session.Prompt
import LayerScript.CommandLine.Calendar
import LayerScript.Main
import LayerScript.Proofs.Confinement
import LayerScript.Proofs.Tokens.Munching
import LayerScript.Proofs.Programs.Reading
import LayerScript.Proofs.Programs.Soundness
import LayerScript.Proofs.Programs.Layout
import LayerScript.Proofs.Frames
import LayerScript.Proofs.Lockstep.Entering
import LayerScript.Proofs.Isolation
import LayerScript.Proofs.Nesting
import LayerScript.Proofs.Dispatching
import LayerScript.Proofs.Stopping
import LayerScript.Proofs.Compiling
import LayerScript.Proofs.Survival
import LayerScript.Proofs.Tracing
import LayerScript.Proofs.Strictness
import LayerScript.Proofs.Declarations
import LayerScript.Proofs.Sessions.Running
import LayerScript.Proofs.Sessions.Saving
import LayerScript.Proofs.Json.Stability
import LayerScript.Proofs.Sessions.Names
import LayerScript.Proofs.Traces.Origins
import LayerScript.Proofs.Phases
import LayerScript.Proofs.BoundNames
import LayerScript.Proofs.Programs.Forward
import LayerScript.Proofs.Programs.Spans
import LayerScript.Proofs.Sorting
import LayerScript.Proofs.Programs.Enclosing
import LayerScript.Proofs.Traces.Receivers
import LayerScript.Proofs.Programs.Locations
import LayerScript.Proofs.Sessions.Failures
import LayerScript.Proofs.Snapshots
import LayerScript.Proofs.Equality
import LayerScript.Proofs.Copies
import LayerScript.Proofs.Signals
import LayerScript.Proofs.Resolution
import LayerScript.Proofs.Matching
import LayerScript.Proofs.Indexing
import LayerScript.Proofs.Guarded
import LayerScript.Proofs.Mutation
import LayerScript.Proofs.Displaying
import LayerScript.Proofs.Splitting
import LayerScript.Proofs.Arithmetic
import LayerScript.Proofs.Ordering
import LayerScript.Proofs.Lines
import LayerScript.Proofs.Ranges
import LayerScript.Proofs.Programs.Progress
