import PedestrianControl.Api.Clock
import PedestrianControl.Api.Handler
import PedestrianControl.Api.Person
import PedestrianControl.Api.Registry
import PedestrianControl.Api.Standard
import PedestrianControl.Api.Surface
import PedestrianControl.Bridge.Basic
import PedestrianControl.Bridge.Lockstep
import PedestrianControl.CommandLine.Arguments
import PedestrianControl.CommandLine.ClientProgram
import PedestrianControl.CommandLine.Display
import PedestrianControl.CommandLine.ServerProgram
import PedestrianControl.Config
import PedestrianControl.Config.File
import PedestrianControl.Controller
import PedestrianControl.Controller.Pool
import PedestrianControl.Decimal.Positional
import PedestrianControl.Decimal.Reading
import PedestrianControl.Decimal.Shortest
import PedestrianControl.Double
import PedestrianControl.Error
import PedestrianControl.Files.IoError
import PedestrianControl.Files.Path
import PedestrianControl.Files.Store
import PedestrianControl.Geometry.Hypotenuse
import PedestrianControl.Geometry.Vector
import PedestrianControl.Main
import PedestrianControl.Network
import PedestrianControl.Router
import PedestrianControl.Server
import PedestrianControl.Session
import PedestrianControl.Simulation
import PedestrianControl.Subscription.Basic
import PedestrianControl.Subscription.Registry
import PedestrianControl.Text.Blank
import PedestrianControl.Text.Hexadecimal
import PedestrianControl.Text.Utf8
import PedestrianControl.Toml.Document
import PedestrianControl.Toml.Item
import PedestrianControl.Toml.Number
import PedestrianControl.Toml.Scan
import PedestrianControl.Toml.Text
import PedestrianControl.Wire.Arrival
import PedestrianControl.Wire.Command
import PedestrianControl.Wire.Command.Codec
import PedestrianControl.Wire.Decoder
import PedestrianControl.Wire.Frame
import PedestrianControl.Wire.Opcode
import PedestrianControl.Wire.Output
import PedestrianControl.Wire.Packet
import PedestrianControl.Wire.Response
import PedestrianControl.Wire.Response.Codec
import PedestrianControl.Wire.ResultCode
import PedestrianControl.Wire.TypedValue
import PedestrianControl.Wire.TypedValue.Codec
import PedestrianControl.World.Basic
import PedestrianControl.World.Crowd
import PedestrianControl.World.Pedestrian
import PedestrianControl.World.Scenario
import PedestrianControl.Proofs.Text.Size
import PedestrianControl.Proofs.World.Fault
import PedestrianControl.Proofs.Wire.ReadBack
import PedestrianControl.Proofs.Wire.TypedValue
import PedestrianControl.Proofs.Wire.Unit
import PedestrianControl.Proofs.Wire.WriteBack
import PedestrianControl.Proofs.Wire.PlacedUnit
import PedestrianControl.Proofs.Wire.Accepted
import PedestrianControl.Proofs.Wire.AcceptedResponse
import PedestrianControl.Proofs.Wire.Stream
import PedestrianControl.Proofs.Wire.Command
import PedestrianControl.Proofs.Wire.Response
import PedestrianControl.Proofs.Wire.Size
import PedestrianControl.Proofs.Api.Surface
import PedestrianControl.Proofs.Api.Building
import PedestrianControl.Proofs.Api.Polling
import PedestrianControl.Proofs.Api.Failure
import PedestrianControl.Proofs.Api.Size
import PedestrianControl.Proofs.Bridge.Lockstep
import PedestrianControl.Proofs.Bridge.Interleaving
import PedestrianControl.Proofs.Bridge.Accounting
import PedestrianControl.Proofs.Bridge.Lifecycle
import PedestrianControl.Proofs.Files.Path
import PedestrianControl.Proofs.Files.Growth
import PedestrianControl.Proofs.Files.Fault
import PedestrianControl.Proofs.Routing.Answers
import PedestrianControl.Proofs.Routing.Watching
import PedestrianControl.Proofs.Routing.Stepping
import PedestrianControl.Proofs.Routing.Upload
import PedestrianControl.Proofs.Routing.Room
import PedestrianControl.Proofs.Wire.Parsed
import PedestrianControl.Proofs.Routing.Batch
import PedestrianControl.Proofs.Routing.Failure
import PedestrianControl.Proofs.Session.Serving
import PedestrianControl.Proofs.Session.Transcript
import PedestrianControl.Proofs.Controller.Exchange
import PedestrianControl.Proofs.Controller.Readable
import PedestrianControl.Proofs.Server.Influence
import PedestrianControl.Proofs.Subscription.History
import PedestrianControl.Proofs.Api.Calls
import PedestrianControl.Proofs.Double.Comparison
import PedestrianControl.Proofs.Routing.Evolution
import PedestrianControl.Proofs.Server.Evolution
import PedestrianControl.Proofs.Server.StepLength
import PedestrianControl.Proofs.World.Speed
import PedestrianControl.Proofs.Text.Division
import PedestrianControl.Proofs.World.Grammar
import PedestrianControl.Proofs.Api.Dispatch
import PedestrianControl.Proofs.World.Lookup
import PedestrianControl.Proofs.Api.Named
import PedestrianControl.Proofs.Api.Touching
import PedestrianControl.Proofs.Decimal.Integer
import PedestrianControl.Proofs.World.Identifiers
import PedestrianControl.Proofs.Api.Listing
import PedestrianControl.Proofs.Wire.Composition
import PedestrianControl.Proofs.Routing.Loading
import PedestrianControl.Proofs.Files.Stored
import PedestrianControl.Proofs.Routing.Reloading
import PedestrianControl.Proofs.Routing.Rejection
import PedestrianControl.Proofs.Wire.Framing
import PedestrianControl.Proofs.Wire.FailedWrite
import PedestrianControl.Proofs.Wire.Recursion
import PedestrianControl.Proofs.Wire.Parts
import PedestrianControl.Proofs.Wire.Parts
