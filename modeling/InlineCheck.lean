import InlineCheck.Text.Blank
import InlineCheck.Text.Bytes
import InlineCheck.Text.Decimals
import InlineCheck.Text.Letters
import InlineCheck.Text.LowerCase
import InlineCheck.Text.Printable
import InlineCheck.Text.Quoted
import InlineCheck.Text.Ranges
import InlineCheck.Text.Widths
import InlineCheck.Number.Binary64
import InlineCheck.Number.Shortest
import InlineCheck.Number.Whole
import InlineCheck.Value.Basic
import InlineCheck.Value.Show
import InlineCheck.Validation.Report
import InlineCheck.Validation.Field
import InlineCheck.Validation.Uuid
import InlineCheck.Log
import InlineCheck.Fault
import InlineCheck.Sequence.Progression
import InlineCheck.Sequence.Slice
import InlineCheck.Sequence.ErrorClass
import InlineCheck.Assertion.Basic
import InlineCheck.Assertion.Json
import InlineCheck.Assertion.Record
import InlineCheck.Console.Cells
import InlineCheck.Console.Emoji
import InlineCheck.Console.Tag
import InlineCheck.Console.Markup
import InlineCheck.Console.Wrap
import InlineCheck.Console.Screen
import InlineCheck.Session.Tally
import InlineCheck.Session.State
import InlineCheck.Session.Step
import InlineCheck.Report.Event
import InlineCheck.Report.ConsoleLines
import InlineCheck.Report.Reporter
import InlineCheck.Report.Catalog
import InlineCheck.Toml.Fault
import InlineCheck.Toml.Scalar
import InlineCheck.Toml.Table
import InlineCheck.Toml.Document
import InlineCheck.Project.EnvFile
import InlineCheck.Project.FileTree
import InlineCheck.Settings.Basic
import InlineCheck.Settings.Load
import InlineCheck.Source.Position
import InlineCheck.Source.Token
import InlineCheck.Source.Node
import InlineCheck.Source.Literal
import InlineCheck.Source.Expression
import InlineCheck.Source.Statement
import InlineCheck.Source.Pattern
import InlineCheck.Source.Program
import InlineCheck.Source.Label
import InlineCheck.CommandLine.Switch
import InlineCheck.CommandLine.Word
import InlineCheck.CommandLine.Request
import InlineCheck.CommandLine.Help
import InlineCheck.Command.Demo
import InlineCheck.Command.Script
import InlineCheck.Command.Run
import InlineCheck.Main
import InlineCheck.Proofs.Text.Cutting
import InlineCheck.Proofs.Console.Tagged
import InlineCheck.Proofs.Console.Escaped
import InlineCheck.Proofs.Console.Verbatim
import InlineCheck.Proofs.Console.Cells
import InlineCheck.Proofs.Console.Rows
import InlineCheck.Proofs.Console.Layout
import InlineCheck.Proofs.Console.Stretches
import InlineCheck.Proofs.Console.SingleRow
import InlineCheck.Proofs.Console.Labels
import InlineCheck.Proofs.Console.Foremost
import InlineCheck.Proofs.Console.Badges
import InlineCheck.Proofs.Console.Verbosity
import InlineCheck.Proofs.Session.Effects
import InlineCheck.Proofs.Session.History
import InlineCheck.Proofs.Session.Course
import InlineCheck.Proofs.Session.Progress
import InlineCheck.Proofs.Session.Execution
import InlineCheck.Proofs.Session.Nesting
import InlineCheck.Proofs.Session.Activation
import InlineCheck.Proofs.Session.Blocks
import InlineCheck.Proofs.Session.Balance
import InlineCheck.Proofs.Session.Oversight
import InlineCheck.Proofs.Session.Restoration
import InlineCheck.Proofs.Session.Isolation
import InlineCheck.Proofs.Session.Calls
import InlineCheck.Proofs.Session.Brackets
import InlineCheck.Proofs.Session.Alike
import InlineCheck.Proofs.Session.Checks
import InlineCheck.Proofs.Session.Stages
import InlineCheck.Proofs.Settings.Effective
import InlineCheck.Proofs.Settings.Dependence
import InlineCheck.Proofs.Settings.Blanks
import InlineCheck.Proofs.Project.Forms
import InlineCheck.Proofs.Project.Root
import InlineCheck.Proofs.Settings.Borrowed
import InlineCheck.Proofs.Source.Rising
import InlineCheck.Proofs.Source.Fields
import InlineCheck.Proofs.Source.Reading
import InlineCheck.Proofs.Source.Expressions
import InlineCheck.Proofs.Source.Statements
import InlineCheck.Proofs.Source.Calls
import InlineCheck.Proofs.Source.Conditions
import InlineCheck.Proofs.Command.Verdict
import InlineCheck.Proofs.Command.Summary
import InlineCheck.Proofs.Command.Independence
import InlineCheck.Proofs.Command.Complaints
import InlineCheck.Proofs.Command.Endings
import InlineCheck.Proofs.Command.Routing
import InlineCheck.Proofs.Sequence.Refusal
import InlineCheck.Proofs.Sequence.Walk
import InlineCheck.Proofs.Sequence.Reshaped
import InlineCheck.Proofs.Sequence.Pieces
import InlineCheck.Proofs.Validation.Uuid
import InlineCheck.Proofs.Assertion.Reading
import InlineCheck.Proofs.Assertion.Recovery
