import Routewright.Aggregator.Edit
import Routewright.Aggregator.Matcher
import Routewright.Aggregator.Record
import Routewright.Command.Arguments
import Routewright.Command.Report
import Routewright.Condition.Emit
import Routewright.Condition.Evaluate
import Routewright.Condition.Operator
import Routewright.Condition.Query
import Routewright.Config.Basic
import Routewright.Config.Error
import Routewright.Config.Resolve
import Routewright.Console
import Routewright.Console.Markup
import Routewright.Document.Check
import Routewright.Document.Checked
import Routewright.Document.Json
import Routewright.Document.Json.Token
import Routewright.Document.Moment
import Routewright.Document.Named
import Routewright.Document.Shown
import Routewright.Document.Value
import Routewright.Document.Yaml
import Routewright.Document.Yaml.Cursor
import Routewright.Document.Yaml.Graph
import Routewright.Document.Yaml.Node
import Routewright.Document.Yaml.Number
import Routewright.Document.Yaml.Scalar
import Routewright.Document.Yaml.Tag
import Routewright.Document.Yaml.Token
import Routewright.Document.Yaml.Value
import Routewright.Failure
import Routewright.FilePath
import Routewright.Main
import Routewright.Module.Manifest
import Routewright.Module.Render
import Routewright.Number.Arithmetic
import Routewright.Number.Double
import Routewright.Number.Shortest
import Routewright.Number.Text
import Routewright.Project.Clean
import Routewright.Project.Generate
import Routewright.Project.Output
import Routewright.Project.Session
import Routewright.Project.Tree
import Routewright.Project.Wiring
import Routewright.Proofs.Aggregator.Record
import Routewright.Proofs.Aggregator.Remove
import Routewright.Proofs.Aggregator.RoundTrip
import Routewright.Proofs.Aggregator.Terminator
import Routewright.Proofs.Aggregator.Upsert
import Routewright.Proofs.Condition.Agreement
import Routewright.Proofs.Document.Named
import Routewright.Proofs.Script.Meaning
import Routewright.Proofs.Text.Lines
import Routewright.Route.Emit
import Routewright.Route.Path
import Routewright.Route.Schema
import Routewright.Script.Printer
import Routewright.Script.Syntax
import Routewright.Spec.Document
import Routewright.Spec.Field
import Routewright.Spec.File
import Routewright.Spec.Route
import Routewright.Text.Basic
import Routewright.Text.Blank
import Routewright.Text.Case
import Routewright.Text.Digit
import Routewright.Text.Emoji
import Routewright.Text.FileName
import Routewright.Text.Printable
import Routewright.Text.Quoted
import Routewright.Text.Utf8
import Routewright.Text.Word
import Routewright.Proofs.Project.Files
import Routewright.Proofs.Project.Run
import Routewright.Proofs.Document.Checked
import Routewright.Proofs.Spec.Names
import Routewright.Proofs.Text.Utf8
import Routewright.Proofs.Module.Places
import Routewright.Proofs.Project.Generate
import Routewright.Proofs.Project.Clean
import Routewright.Proofs.Project.Standard
import Routewright.Proofs.Spec.File
import Routewright.Proofs.Project.RoundTrip
import Routewright.Proofs.Module.Statements
import Routewright.Proofs.Aggregator.Layout
import Routewright.Proofs.Aggregator.Withdrawal
import Routewright.Proofs.Aggregator.Mounting
import Routewright.Proofs.Project.Log
import Routewright.Proofs.Project.Apart
import Routewright.Proofs.Project.Product
import Routewright.Proofs.Project.Failures
import Routewright.Proofs.Project.Mounted
import Routewright.Proofs.Condition.Query
import Routewright.Proofs.Condition.Binding
import Routewright.Proofs.Script.Scope
import Routewright.Proofs.Condition.Effect
import Routewright.Proofs.Route.Names
import Routewright.Proofs.Module.Closed
import Routewright.Proofs.Aggregator.Repeat
import Routewright.Proofs.Project.CleanAgain
import Routewright.Proofs.Aggregator.Sequence
import Routewright.Proofs.Aggregator.Deletion
import Routewright.Proofs.Aggregator.Calls
import Routewright.Proofs.Aggregator.Chain
import Routewright.Proofs.Aggregator.Cut
import Routewright.Proofs.Aggregator.Returned
import Routewright.Proofs.Script.Printable
import Routewright.Proofs.Route.Printable
import Routewright.Proofs.Module.Rendered
import Routewright.Proofs.Text.OneLine
import Routewright.Proofs.Document.Quoted
import Routewright.Proofs.Script.Indented
import Routewright.Proofs.Script.Reader
import Routewright.Proofs.Script.Reading
import Routewright.Proofs.Script.Template
import Routewright.Proofs.FilePath
import Routewright.Proofs.Module.Import
import Routewright.Proofs.Text.Order
import Routewright.Proofs.Project.Manifests
import Routewright.Proofs.Document.Entries
import Routewright.Proofs.Module.Scalar
import Routewright.Proofs.Module.Recorded
import Routewright.Proofs.Project.Recorded
import Routewright.Proofs.Project.Damaged
import Routewright.Proofs.Module.Constants
import Routewright.Proofs.Document.Limits
import Routewright.Proofs.Spec.Loading
import Routewright.Proofs.Project.Attempts
import Routewright.Proofs.Module.Specifier
import Routewright.Proofs.Script.Key
import Routewright.Proofs.Route.Schema
import Routewright.Proofs.Script.Cooked
import Routewright.Proofs.Condition.Literal
import Routewright.Proofs.Number.Rounding
import Routewright.Proofs.Number.Shortest
import Routewright.Proofs.Number.Literal
import Routewright.Proofs.Route.Constraint
