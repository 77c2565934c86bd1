import JuliaBlocks.Main
import JuliaBlocks.Recording
import JuliaBlocks.Proofs.Snippet.Assignments
import JuliaBlocks.Proofs.Transport.Isolation
import JuliaBlocks.Proofs.Transport.Outcome
import JuliaBlocks.Proofs.Transport.Protocol
import JuliaBlocks.Proofs.Transport.Preparation
import JuliaBlocks.Proofs.Framework.Choice
import JuliaBlocks.Proofs.Framework.Steps
import JuliaBlocks.Proofs.Plugin.Repair
import JuliaBlocks.Proofs.Framework.Isolation
import JuliaBlocks.Proofs.Framework.Channel
import JuliaBlocks.Proofs.Framework.Failures
import JuliaBlocks.Proofs.Pool.Multiplexing
import JuliaBlocks.Proofs.Pool.Lifecycle
import JuliaBlocks.Proofs.Text.Quoted
import JuliaBlocks.Proofs.Value
import JuliaBlocks.Proofs.Trace
import JuliaBlocks.Proofs.Transport.Calls
import JuliaBlocks.Proofs.Transport.Observation
import JuliaBlocks.Proofs.Transport.Binding
import JuliaBlocks.Proofs.Run.Tracing
import JuliaBlocks.Proofs.Transport.Debugging
import JuliaBlocks.Proofs.Settings.Interval
import JuliaBlocks.Proofs.Request.Header
import JuliaBlocks.Proofs.Cli.Wrap
import JuliaBlocks.Proofs.Cli.Failures
import JuliaBlocks.Proofs.Transport.Loading
import JuliaBlocks.Proofs.Session
import JuliaBlocks.Proofs.Transport.Routing
import JuliaBlocks.Proofs.Framework.Routing
import JuliaBlocks.Proofs.Cli.Routing
import JuliaBlocks.Proofs.Settings.Failures
import JuliaBlocks.Proofs.Julia.Assignment
import JuliaBlocks.Proofs.Julia.Shape
import JuliaBlocks.Proofs.Transport.TrampolineText
import JuliaBlocks.Proofs.Output.Stability
import JuliaBlocks.Proofs.Run.Polling
import JuliaBlocks.Proofs.Transport.Suppression
import JuliaBlocks.Proofs.Plugin.Turns
import JuliaBlocks.Proofs.Request.Tidying
import JuliaBlocks.Proofs.Request.Shapes
import JuliaBlocks.Proofs.Request.Origin
import JuliaBlocks.Proofs.Request.QuotedText
import JuliaBlocks.Proofs.Log.Configuration
import JuliaBlocks.Proofs.Request.Integers
