import Flowline.Binding
import Flowline.Build
import Flowline.Catalog
import Flowline.Command
import Flowline.Compile
import Flowline.Decimal.Shortest
import Flowline.Diagnostic
import Flowline.Editor
import Flowline.Emitter.Basic
import Flowline.Emitter.Builtin
import Flowline.Emitter.Template
import Flowline.Graph.Basic
import Flowline.Graph.Order
import Flowline.Graph.Reach
import Flowline.Handler
import Flowline.Json.Basic
import Flowline.Json.Fault
import Flowline.Json.Printer
import Flowline.Json.Reader
import Flowline.Json.Record
import Flowline.Json.Value
import Flowline.Kind.Builtin
import Flowline.Kind.FieldType
import Flowline.Kind.Port
import Flowline.Kind.Schema
import Flowline.Main
import Flowline.Ordered
import Flowline.OsError
import Flowline.Pipeline.Basic
import Flowline.Pipeline.Document
import Flowline.Pipeline.Edit
import Flowline.Proofs.Compile.Comments
import Flowline.Proofs.Compile.Coverage
import Flowline.Proofs.Compile.Guards
import Flowline.Proofs.Compile.Identifiers
import Flowline.Proofs.Compile.Machines
import Flowline.Proofs.Compile.Progress
import Flowline.Proofs.Compile.Provision
import Flowline.Proofs.Compile.Pruned
import Flowline.Proofs.Compile.Rearranged
import Flowline.Proofs.Compile.Scopes
import Flowline.Proofs.Compile.Validated
import Flowline.Proofs.Compile.WellScoped
import Flowline.Proofs.Emitter.Amounts
import Flowline.Proofs.Emitter.Builtin
import Flowline.Proofs.Emitter.Cleared
import Flowline.Proofs.Emitter.Readings
import Flowline.Proofs.Emitter.Trimmed
import Flowline.Proofs.Folds
import Flowline.Proofs.Graph.Alike
import Flowline.Proofs.Graph.Components
import Flowline.Proofs.Graph.Cycles
import Flowline.Proofs.Graph.Least
import Flowline.Proofs.Graph.Merging
import Flowline.Proofs.Graph.Order
import Flowline.Proofs.Graph.Partition
import Flowline.Proofs.Graph.Paths
import Flowline.Proofs.Graph.Queries
import Flowline.Proofs.Graph.Reach
import Flowline.Proofs.Handler.Dataflow
import Flowline.Proofs.Handler.Lines
import Flowline.Proofs.Handler.Members
import Flowline.Proofs.Handler.Steps
import Flowline.Proofs.Json.Numerals
import Flowline.Proofs.Lines.Boundaries
import Flowline.Proofs.Lines.Looks
import Flowline.Proofs.Lines.Pieces
import Flowline.Proofs.Lines.Taps
import Flowline.Proofs.Lines.Widths
import Flowline.Proofs.Pipeline.Document
import Flowline.Proofs.Pipeline.Edges
import Flowline.Proofs.Pipeline.Editing
import Flowline.Proofs.Pipeline.Readiness
import Flowline.Proofs.Pipeline.States
import Flowline.Proofs.Script.Integers
import Flowline.Proofs.Script.Literals
import Flowline.Proofs.Script.Names
import Flowline.Proofs.Script.Paths
import Flowline.Proofs.Script.Variables
import Flowline.Proofs.Service.Editor
import Flowline.Proofs.Service.Secrets
import Flowline.Proofs.Service.Simulate
import Flowline.Proofs.Service.Warnings
import Flowline.Proofs.Simulation.Agreement
import Flowline.Proofs.Simulation.Channel
import Flowline.Proofs.Simulation.Courses
import Flowline.Proofs.Simulation.Delivery
import Flowline.Proofs.Simulation.Exclusion
import Flowline.Proofs.Simulation.Fanout
import Flowline.Proofs.Simulation.Hub
import Flowline.Proofs.Simulation.Invariant
import Flowline.Proofs.Simulation.Listening
import Flowline.Proofs.Simulation.Logging
import Flowline.Proofs.Simulation.Rings
import Flowline.Proofs.Simulation.Steps
import Flowline.Proofs.Simulation.Turns
import Flowline.Proofs.Simulation.Viewing
import Flowline.Proofs.Simulation.Vigil
import Flowline.Proofs.Text
import Flowline.Proofs.Text.Lossy
import Flowline.Proofs.Validation.Repetition
import Flowline.Proofs.Validation.Unreachable
import Flowline.Proofs.Validation.WellFormed
import Flowline.Script.Expr
import Flowline.Script.Line
import Flowline.Script.Prelude
import Flowline.Service
import Flowline.Shell.Arithmetic
import Flowline.Shell.Builtin
import Flowline.Shell.Builtin.Control
import Flowline.Shell.Builtin.Input
import Flowline.Shell.Builtin.Names
import Flowline.Shell.Builtin.Options
import Flowline.Shell.Builtin.Place
import Flowline.Shell.Builtin.Variables
import Flowline.Shell.Bytes
import Flowline.Shell.Calculation
import Flowline.Shell.Call
import Flowline.Shell.Days
import Flowline.Shell.Digest
import Flowline.Shell.Eval
import Flowline.Shell.Exec
import Flowline.Shell.Expansion
import Flowline.Shell.Files
import Flowline.Shell.Format
import Flowline.Shell.Grammar
import Flowline.Shell.Installation
import Flowline.Shell.Jobs
import Flowline.Shell.Lookup
import Flowline.Shell.Pattern
import Flowline.Shell.Permissions
import Flowline.Shell.Process
import Flowline.Shell.Program
import Flowline.Shell.Reading
import Flowline.Shell.Redirection
import Flowline.Shell.Regex
import Flowline.Shell.Sed
import Flowline.Shell.Stream
import Flowline.Shell.Syntax
import Flowline.Shell.System
import Flowline.Shell.Test
import Flowline.Shell.Utility.Arguments
import Flowline.Shell.Utility.Batches
import Flowline.Shell.Utility.Blocks
import Flowline.Shell.Utility.Calendar
import Flowline.Shell.Utility.Characters
import Flowline.Shell.Utility.Columns
import Flowline.Shell.Utility.Comparison
import Flowline.Shell.Utility.Count
import Flowline.Shell.Utility.Delay
import Flowline.Shell.Utility.Digests
import Flowline.Shell.Utility.Finding
import Flowline.Shell.Utility.Input
import Flowline.Shell.Utility.Launching
import Flowline.Shell.Utility.Layout
import Flowline.Shell.Utility.Listing
import Flowline.Shell.Utility.Measure
import Flowline.Shell.Utility.Part
import Flowline.Shell.Utility.Printing
import Flowline.Shell.Utility.Search
import Flowline.Shell.Utility.Sed
import Flowline.Shell.Utility.Sequence
import Flowline.Shell.Utility.Sorting
import Flowline.Shell.Utility.Surroundings
import Flowline.Shell.Utility.Tree
import Flowline.Shell.Variables
import Flowline.Shell.Words
import Flowline.Signal
import Flowline.Simulation.Channel
import Flowline.Simulation.Config
import Flowline.Simulation.Event
import Flowline.Simulation.Lines
import Flowline.Simulation.Run
import Flowline.Simulation.Runner
import Flowline.Simulation.Sandbox
import Flowline.Simulation.Schedule
import Flowline.Simulation.Session
import Flowline.Simulation.Watch
import Flowline.Text
import Flowline.Text.Printable
import Flowline.Text.Quoted
import Flowline.Text.Utf8
import Flowline.Validation
