import Gesture.Action
import Gesture.Action.Command
import Gesture.Action.Condition
import Gesture.Action.Error
import Gesture.Action.Kind
import Gesture.Action.Overrun
import Gesture.Action.Table
import Gesture.Binary64
import Gesture.Binary64.Decimal
import Gesture.Buffer
import Gesture.Button
import Gesture.CodeText
import Gesture.Command
import Gesture.CommandLine
import Gesture.Decoder
import Gesture.Device
import Gesture.Duration
import Gesture.Event
import Gesture.Feed
import Gesture.Files
import Gesture.Host
import Gesture.Host.Commands
import Gesture.Json
import Gesture.Json.Parser
import Gesture.Json.Printer
import Gesture.Log
import Gesture.Main
import Gesture.Path
import Gesture.Pattern.Grammar
import Gesture.Pattern.Occurrence
import Gesture.Pattern.Outline
import Gesture.Proofs.Account
import Gesture.Proofs.Afresh
import Gesture.Proofs.Apart
import Gesture.Proofs.Atomic
import Gesture.Proofs.BestMatch
import Gesture.Proofs.Cadence
import Gesture.Proofs.Chatter
import Gesture.Proofs.Chunks
import Gesture.Proofs.Compiled
import Gesture.Proofs.Custody
import Gesture.Proofs.Decoding
import Gesture.Proofs.Derivation
import Gesture.Proofs.Down
import Gesture.Proofs.DurationLanguage
import Gesture.Proofs.DurationText
import Gesture.Proofs.GiveWay
import Gesture.Proofs.Held
import Gesture.Proofs.HeldTail
import Gesture.Proofs.JsonText
import Gesture.Proofs.Leftmost
import Gesture.Proofs.LineNumbers
import Gesture.Proofs.LineOrder
import Gesture.Proofs.Lines
import Gesture.Proofs.Live
import Gesture.Proofs.Nesting
import Gesture.Proofs.OnePass
import Gesture.Proofs.OneSnapshot
import Gesture.Proofs.Onward
import Gesture.Proofs.Outcome
import Gesture.Proofs.Owed
import Gesture.Proofs.PrintedLine
import Gesture.Proofs.Rank
import Gesture.Proofs.Readback
import Gesture.Proofs.Repetition
import Gesture.Proofs.Resync
import Gesture.Proofs.Saved
import Gesture.Proofs.Schedule
import Gesture.Proofs.ShortForm
import Gesture.Proofs.SideBySide
import Gesture.Proofs.Splits
import Gesture.Proofs.Stability
import Gesture.Proofs.Startup
import Gesture.Proofs.Steps
import Gesture.Proofs.Stops
import Gesture.Proofs.Unnamed
import Gesture.Proofs.View
import Gesture.Proofs.WellFormed
import Gesture.Proofs.WhileDown
import Gesture.Proofs.Written
import Gesture.Recognizer
import Gesture.Regex
import Gesture.Regex.CharTest
import Gesture.Regex.Error
import Gesture.Regex.Machine
import Gesture.Regex.Parser
import Gesture.Regex.Program
import Gesture.Regex.Reader
import Gesture.Regex.Syntax
import Gesture.Rounding
import Gesture.Settings
import Gesture.Settings.File
import Gesture.Shell
import Gesture.Shell.Arithmetic
import Gesture.Shell.Builtin.Basic
import Gesture.Shell.Builtin.Directory
import Gesture.Shell.Builtin.Jobs
import Gesture.Shell.Builtin.Limits
import Gesture.Shell.Builtin.Parameters
import Gesture.Shell.Decimal
import Gesture.Shell.Engine
import Gesture.Shell.Evaluation
import Gesture.Shell.Expansion
import Gesture.Shell.Fields
import Gesture.Shell.Format
import Gesture.Shell.Glob
import Gesture.Shell.Lexer
import Gesture.Shell.Lookup
import Gesture.Shell.Machine
import Gesture.Shell.Mode
import Gesture.Shell.Number
import Gesture.Shell.Parser
import Gesture.Shell.Program
import Gesture.Shell.Program.Awk
import Gesture.Shell.Program.Awk.Evaluation
import Gesture.Shell.Program.Awk.Lexer
import Gesture.Shell.Program.Awk.Parser
import Gesture.Shell.Program.Awk.Real
import Gesture.Shell.Program.Awk.State
import Gesture.Shell.Program.Awk.Syntax
import Gesture.Shell.Program.Awk.Value
import Gesture.Shell.Program.Basic
import Gesture.Shell.Program.Calculation
import Gesture.Shell.Program.Column
import Gesture.Shell.Program.Counting
import Gesture.Shell.Program.Date
import Gesture.Shell.Program.Date.Calendar
import Gesture.Shell.Program.Date.Format
import Gesture.Shell.Program.Date.Reading
import Gesture.Shell.Program.Date.Token
import Gesture.Shell.Program.Dump
import Gesture.Shell.Program.Encoding
import Gesture.Shell.Program.Ends
import Gesture.Shell.Program.Entry
import Gesture.Shell.Program.Folding
import Gesture.Shell.Program.Grep
import Gesture.Shell.Program.Joining
import Gesture.Shell.Program.Listing
import Gesture.Shell.Program.Lookaround
import Gesture.Shell.Program.Making
import Gesture.Shell.Program.Moving
import Gesture.Shell.Program.Nested
import Gesture.Shell.Program.Numbering
import Gesture.Shell.Program.Pairing
import Gesture.Shell.Program.Passing
import Gesture.Shell.Program.Quoting
import Gesture.Shell.Program.Reversing
import Gesture.Shell.Program.Sed
import Gesture.Shell.Program.Sed.Script
import Gesture.Shell.Program.Size
import Gesture.Shell.Program.Sorting
import Gesture.Shell.Program.System
import Gesture.Shell.Program.Tabs
import Gesture.Shell.Program.Text
import Gesture.Shell.Program.Translate
import Gesture.Shell.Redirect
import Gesture.Shell.Regular
import Gesture.Shell.Signal
import Gesture.Shell.Stream
import Gesture.Shell.Syntax
import Gesture.Shell.Test
import Gesture.Shell.Tree
import Gesture.Shell.Variables
import Gesture.Shell.Wide
import Gesture.Snapshot
import Gesture.Stack
import Gesture.Text.Blank
import Gesture.Text.Case
import Gesture.Text.Case.Table
import Gesture.Text.Digit
import Gesture.Text.Identifier
import Gesture.Text.Letter
import Gesture.Text.Lines
import Gesture.Text.Name
import Gesture.Text.Name.Alias
import Gesture.Text.Name.Ancient
import Gesture.Text.Name.Ideographic
import Gesture.Text.Name.Pictograph
import Gesture.Text.Name.Script
import Gesture.Text.Name.Symbol
import Gesture.Text.Printable
import Gesture.Text.Quoted
import Gesture.Text.Ranges
import Gesture.Text.Utf8
import Gesture.Token
