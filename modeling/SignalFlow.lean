import SignalFlow.Block.Behaviour
import SignalFlow.Block.Kind
import SignalFlow.Block.Payload
import SignalFlow.Block.Registry
import SignalFlow.Block.Resolve
import SignalFlow.Block.Schema
import SignalFlow.Block.Template
import SignalFlow.Code.C
import SignalFlow.Code.Generate
import SignalFlow.Code.Language
import SignalFlow.Code.Program
import SignalFlow.Code.Python
import SignalFlow.Code.Replay
import SignalFlow.Code.Rules
import SignalFlow.Code.Syntax
import SignalFlow.Code.Text
import SignalFlow.Command.Arguments
import SignalFlow.Command.Line
import SignalFlow.Command.Perform
import SignalFlow.Compiled.Basic
import SignalFlow.Compiled.Compile
import SignalFlow.Compiled.Order
import SignalFlow.Compiled.Wiring
import SignalFlow.Config.Basic
import SignalFlow.Config.Tree
import SignalFlow.Constants
import SignalFlow.Diagram.Basic
import SignalFlow.Diagram.Builder
import SignalFlow.Diagram.File
import SignalFlow.Diagram.Read
import SignalFlow.Engine.Configure
import SignalFlow.Engine.PlotSeries
import SignalFlow.Engine.Resolver
import SignalFlow.Engine.Run
import SignalFlow.Engine.Series
import SignalFlow.Engine.State
import SignalFlow.Engine.Step
import SignalFlow.Engine.Table
import SignalFlow.Expr.Basic
import SignalFlow.Expr.Escape
import SignalFlow.Expr.Eval
import SignalFlow.Expr.Function
import SignalFlow.Expr.Parser
import SignalFlow.Expr.Token
import SignalFlow.Fault
import SignalFlow.Json.Reader
import SignalFlow.Json.Writer
import SignalFlow.Linear.Polynomial
import SignalFlow.Linear.Recurrence
import SignalFlow.Linear.StateSpace
import SignalFlow.Main
import SignalFlow.Notice
import SignalFlow.Number.Arithmetic
import SignalFlow.Number.Binary64
import SignalFlow.Number.Decimal
import SignalFlow.Number.Division
import SignalFlow.Number.Norm
import SignalFlow.Number.Read
import SignalFlow.Proofs.Completion
import SignalFlow.Proofs.EvaluationOrder
import SignalFlow.Proofs.RunState
import SignalFlow.Scalar
import SignalFlow.Store.Csv
import SignalFlow.Store.Files
import SignalFlow.Text.Blank
import SignalFlow.Text.Compatibility
import SignalFlow.Text.CompatibilityTables
import SignalFlow.Text.Digit
import SignalFlow.Text.Identifier
import SignalFlow.Text.Lines
import SignalFlow.Text.Printable
import SignalFlow.Text.Quoted
import SignalFlow.Text.Ranges
import SignalFlow.Validation.Check
import SignalFlow.Validation.Cycles
import SignalFlow.Validation.Finding
import SignalFlow.Validation.Poles
import SignalFlow.Value
import SignalFlow.Value.Whole
import SignalFlow.Workspace.Basic
import SignalFlow.Workspace.Pattern
import SignalFlow.Workspace.Statement
import SignalFlow.Yaml.Cursor
import SignalFlow.Yaml.Reader
import SignalFlow.Yaml.Scalar
import SignalFlow.Proofs.Compiling
import SignalFlow.Proofs.Dependency
import SignalFlow.Proofs.Resolution.Pass
import SignalFlow.Proofs.Resolution.Revision
import SignalFlow.Proofs.Resolution.Settling
import SignalFlow.Proofs.Resolution.FixedPoint
import SignalFlow.Proofs.Resolution.Solution
import SignalFlow.Proofs.Resolution.Convergence
import SignalFlow.Proofs.LoadOrder.Correspondence
import SignalFlow.Proofs.LoadOrder.Simulation
import SignalFlow.Proofs.LoadOrder.Placement
import SignalFlow.Proofs.LoadOrder.Reordering
import SignalFlow.Proofs.LoadOrder.Independence
import SignalFlow.Proofs.EngineStep
import SignalFlow.Proofs.Layout
import SignalFlow.Proofs.Cycles
import SignalFlow.Proofs.Resolution.Unsettled
import SignalFlow.Proofs.Prediction
import SignalFlow.Proofs.LabelBus
import SignalFlow.Proofs.Alike
import SignalFlow.Proofs.Observer.Extension
import SignalFlow.Proofs.Observer.Restriction
import SignalFlow.Proofs.Observer.Passes
import SignalFlow.Proofs.Observer.Ticks
import SignalFlow.Proofs.Observer.Compiling
import SignalFlow.Proofs.Observer.Transparency
import SignalFlow.Proofs.Linear.Shape
import SignalFlow.Proofs.Linear.Realization
import SignalFlow.Proofs.PhaseDiscipline
import SignalFlow.Proofs.Persistence
import SignalFlow.Proofs.Runs
import SignalFlow.Proofs.TransportDelay
import SignalFlow.Proofs.Superposition
import SignalFlow.Proofs.Diagram.FreshIds
import SignalFlow.Proofs.Diagram.Naming
import SignalFlow.Proofs.Diagram.Reading
import SignalFlow.Proofs.ValueEquality
import SignalFlow.Proofs.InfiniteDoubles
import SignalFlow.Proofs.JsonLines
import SignalFlow.Proofs.WrittenFiles
import SignalFlow.Proofs.Diagram.RoundTrip
import SignalFlow.Proofs.Diagram.Refusals
import SignalFlow.Proofs.Doubles.Rounding
import SignalFlow.Proofs.Doubles.Finite
import SignalFlow.Proofs.ParameterValues
import SignalFlow.Proofs.BlockTotality
import SignalFlow.Proofs.Doubles.Literals
import SignalFlow.Proofs.Code.Mentions
import SignalFlow.Proofs.Code.Literals
import SignalFlow.Proofs.Code.Reach
import SignalFlow.Proofs.Code.Scope
import SignalFlow.Proofs.StableOrder
import SignalFlow.Proofs.Findings
import SignalFlow.Proofs.Connections
import SignalFlow.Proofs.UnconnectedPorts
import SignalFlow.Proofs.Components
import SignalFlow.Proofs.Resolution.Resumption
import SignalFlow.Proofs.Linear.RungeKutta
import SignalFlow.Proofs.Linear.Truncation
import SignalFlow.Proofs.Sampled.Schedule
import SignalFlow.Proofs.Sampled.Clock
import SignalFlow.Proofs.Sampled.Recurrence
import SignalFlow.Proofs.Sampled.Delay
import SignalFlow.Proofs.Sampled.Rate
import SignalFlow.Proofs.Code.Execution
import SignalFlow.Proofs.Code.Registers
import SignalFlow.Proofs.Code.Comments
import SignalFlow.Proofs.Code.Template
import SignalFlow.Proofs.Code.ProgramLines
import SignalFlow.Proofs.Code.Containment
import SignalFlow.Proofs.Entries
import SignalFlow.Proofs.Code.Declarations
import SignalFlow.Proofs.Workspace.Reads
import SignalFlow.Proofs.TrimmedText
import SignalFlow.Proofs.Workspace.FileOrder
import SignalFlow.Proofs.CoefficientTexts
import SignalFlow.Proofs.Expr.Names
import SignalFlow.Proofs.Expr.Spellings
import SignalFlow.Proofs.NameLookup
import SignalFlow.Proofs.LabelResolution
import SignalFlow.Proofs.EngineRun
import SignalFlow.Proofs.Traces
import SignalFlow.Proofs.Doubles.Order
import SignalFlow.Proofs.Doubles.Nearest
import SignalFlow.Proofs.Doubles.Sums
import SignalFlow.Proofs.Bisection
import SignalFlow.Proofs.InputRows
import SignalFlow.Proofs.Code.Replay
import SignalFlow.Proofs.Config.Paths
import SignalFlow.Proofs.Table.Reading
import SignalFlow.Proofs.TickCount
import SignalFlow.Proofs.RunLength
import SignalFlow.Proofs.Table.Cells
import SignalFlow.Proofs.Doubles.Places
import SignalFlow.Proofs.Table.RoundTrip
import SignalFlow.Proofs.Config.Layering
import SignalFlow.Proofs.JsonReading
import SignalFlow.Proofs.Config.Reloading
import SignalFlow.Proofs.Play
import SignalFlow.Proofs.NoisePeriod
import SignalFlow.Proofs.Impulse
import SignalFlow.Proofs.Sampled.FirstOrderHold
import SignalFlow.Proofs.Sampled.StateSpace
import SignalFlow.Proofs.Linear.Normalization
