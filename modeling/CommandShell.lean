import CommandShell.Builtin.Ask
import CommandShell.Builtin.Browse
import CommandShell.Builtin.Control
import CommandShell.Builtin.Env
import CommandShell.Builtin.File
import CommandShell.Builtin.Help
import CommandShell.Builtin.Launch
import CommandShell.Builtin.Pure
import CommandShell.Builtin.Script
import CommandShell.Builtin.Stored
import CommandShell.Builtin.Table
import CommandShell.Builtin.Var
import CommandShell.Calc.Answer
import CommandShell.Calc.Evaluate
import CommandShell.Calc.Token
import CommandShell.Chat.Client
import CommandShell.Chat.Config
import CommandShell.Chat.Exchange
import CommandShell.Chat.Web
import CommandShell.Columns
import CommandShell.Command.Alias
import CommandShell.Command.Command
import CommandShell.Command.Complaint
import CommandShell.Command.Custom
import CommandShell.Command.Fault
import CommandShell.Command.Limit
import CommandShell.Command.Registry
import CommandShell.Command.Result
import CommandShell.Command.Session
import CommandShell.Command.Strain
import CommandShell.Console
import CommandShell.Decimal.Binary
import CommandShell.Decimal.Notation
import CommandShell.Decimal.Numeral
import CommandShell.Decimal.Shortest
import CommandShell.Domain.Direction
import CommandShell.Domain.Fault
import CommandShell.Domain.Joining
import CommandShell.Domain.Label
import CommandShell.Domain.Mark
import CommandShell.Domain.Name
import CommandShell.Domain.Punycode
import CommandShell.Domain.Script
import CommandShell.Domain.Valid
import CommandShell.Execution.Climb
import CommandShell.Execution.Shell
import CommandShell.Execution.Stack
import CommandShell.Files.Disk
import CommandShell.Files.Executable
import CommandShell.Files.Fault
import CommandShell.Files.Path
import CommandShell.Files.Resolve
import CommandShell.Json.Display
import CommandShell.Json.Encoding
import CommandShell.Json.Fault
import CommandShell.Json.Lexeme
import CommandShell.Json.Reader
import CommandShell.Json.Value
import CommandShell.Json.Whole
import CommandShell.Json.Writer
import CommandShell.Main
import CommandShell.OrderedMap
import CommandShell.Overflow
import CommandShell.Proofs.Alias.Walk
import CommandShell.Proofs.Calc.Expression
import CommandShell.Proofs.Except
import CommandShell.Proofs.Json.Writable
import CommandShell.Proofs.Alias.Words
import CommandShell.Proofs.Execution.Request
import CommandShell.Proofs.Execution.Calm
import CommandShell.Proofs.Execution.Course
import CommandShell.Proofs.Execution.Account
import CommandShell.Proofs.Execution.Frame
import CommandShell.Proofs.Execution.Guard
import CommandShell.Proofs.Execution.Knot
import CommandShell.Proofs.Execution.Lasting
import CommandShell.Proofs.Execution.Nesting
import CommandShell.Proofs.Execution.Outcome
import CommandShell.Proofs.Execution.Watch
import CommandShell.Proofs.Substitution.Closed
import CommandShell.Proofs.Substitution.Loop
import CommandShell.Proofs.Substitution.Spans
import CommandShell.Proofs.Substitution.Walk
import CommandShell.Proofs.Syntax.Pieces
import CommandShell.Settings
import CommandShell.Startup
import CommandShell.Store
import CommandShell.Syntax.Reference
import CommandShell.Syntax.Statement
import CommandShell.Syntax.Substitution
import CommandShell.Syntax.Token
import CommandShell.Text.Blank
import CommandShell.Text.Capital
import CommandShell.Text.Code
import CommandShell.Text.Digit
import CommandShell.Text.Encode
import CommandShell.Text.Line
import CommandShell.Text.Lower
import CommandShell.Text.Order
import CommandShell.Text.Pad
import CommandShell.Text.Printable
import CommandShell.Text.Quoted
import CommandShell.Text.Ranges
import CommandShell.Text.Split
import CommandShell.Text.Surrogate
import CommandShell.Text.Utf8
import CommandShell.Text.Word
import CommandShell.Url.Address
import CommandShell.Url.Basic
import CommandShell.Url.Fault
import CommandShell.Url.Host
import CommandShell.Url.Quote
import CommandShell.Url.Reader
import CommandShell.Url.Web
import CommandShell.Proofs.Execution.Sequence
import CommandShell.Proofs.Execution.Quoting
import CommandShell.Proofs.Files.Replace
import CommandShell.Proofs.Text.Encoding
import CommandShell.Proofs.Json.Literal
import CommandShell.Proofs.Json.RoundTrip
import CommandShell.Proofs.Store.Reopen
import CommandShell.Proofs.Syntax.Placement
import CommandShell.Proofs.Calc.Placement
import CommandShell.Proofs.Calc.Value
import CommandShell.Proofs.Chat.Protocol
import CommandShell.Proofs.Execution.Termination
import CommandShell.Proofs.Alias.Reserved
import CommandShell.Proofs.Console.Transcript
import CommandShell.Proofs.Store.Saving
import CommandShell.Proofs.Execution.Script
import CommandShell.Proofs.Alias.Replay
import CommandShell.Proofs.Syntax.References
import CommandShell.Proofs.Execution.Splitting
import CommandShell.Proofs.Builtin.Writing
import CommandShell.Proofs.Chat.Deadline
import CommandShell.Proofs.Columns
import CommandShell.Proofs.Command.Registry
import CommandShell.Proofs.Execution.Location
import CommandShell.Proofs.Builtin.Removal
import CommandShell.Proofs.Settings
import CommandShell.Proofs.Chat.Normalization
import CommandShell.Proofs.Alias.Apart
import CommandShell.Proofs.Builtin.Failure
import CommandShell.Proofs.Substitution.Innermost
import CommandShell.Proofs.Calc.Unguarded
import CommandShell.Proofs.Syntax.Stability
