import UnitWatch.Bus.Name
import UnitWatch.Bus.Properties
import UnitWatch.Bus.Scope
import UnitWatch.Check.Finding
import UnitWatch.Check.Result
import UnitWatch.Check.Scalar
import UnitWatch.Command.Arguments
import UnitWatch.Command.Markup
import UnitWatch.Command.Run
import UnitWatch.Config.Basic
import UnitWatch.Config.Environment
import UnitWatch.Config.Load
import UnitWatch.Config.Merge
import UnitWatch.Dispatch.Program
import UnitWatch.Dispatch.Protocol
import UnitWatch.Event
import UnitWatch.Expression
import UnitWatch.Failure
import UnitWatch.Fault
import UnitWatch.Host.Basic
import UnitWatch.Host.Path
import UnitWatch.Json.Reader
import UnitWatch.Json.Writer
import UnitWatch.Log.Clock
import UnitWatch.Log.Line
import UnitWatch.Log.Options
import UnitWatch.Log.Record
import UnitWatch.Main
import UnitWatch.Number.Binary64
import UnitWatch.Number.IntegerText
import UnitWatch.Number.Shortest
import UnitWatch.Pattern.Error
import UnitWatch.Pattern.Match
import UnitWatch.Pattern.Node
import UnitWatch.Pattern.Reader
import UnitWatch.Process
import UnitWatch.Proofs.Bus.Name
import UnitWatch.Proofs.Bus.Properties
import UnitWatch.Proofs.Check.Result
import UnitWatch.Proofs.Config.Environment
import UnitWatch.Proofs.Config.Files
import UnitWatch.Proofs.Config.Merge
import UnitWatch.Proofs.Config.Options
import UnitWatch.Proofs.Config.Priority
import UnitWatch.Proofs.Dispatch.Sends
import UnitWatch.Proofs.Dispatch.Timeline
import UnitWatch.Proofs.Expression
import UnitWatch.Proofs.Interference
import UnitWatch.Proofs.Json.Reader
import UnitWatch.Proofs.Number.Binary64
import UnitWatch.Proofs.Number.Rounding
import UnitWatch.Proofs.Registry
import UnitWatch.Proofs.Registry.Latest
import UnitWatch.Proofs.Registry.Operations
import UnitWatch.Proofs.Registry.Order
import UnitWatch.Proofs.Registry.Walk
import UnitWatch.Proofs.Session.Abreast
import UnitWatch.Proofs.Session.Apart
import UnitWatch.Proofs.Session.CallOrder
import UnitWatch.Proofs.Session.Cancellation
import UnitWatch.Proofs.Session.Chronicle
import UnitWatch.Proofs.Session.Discovery
import UnitWatch.Proofs.Session.Echo
import UnitWatch.Proofs.Session.Following
import UnitWatch.Proofs.Session.Forget
import UnitWatch.Proofs.Session.Home
import UnitWatch.Proofs.Session.Journal
import UnitWatch.Proofs.Session.Linked
import UnitWatch.Proofs.Session.Malformed
import UnitWatch.Proofs.Session.Manager
import UnitWatch.Proofs.Session.Minding
import UnitWatch.Proofs.Session.Outage
import UnitWatch.Proofs.Session.Ownership
import UnitWatch.Proofs.Session.Policy
import UnitWatch.Proofs.Session.Reconnect
import UnitWatch.Proofs.Session.Reload
import UnitWatch.Proofs.Session.Replay
import UnitWatch.Proofs.Session.Restrict
import UnitWatch.Proofs.Session.Resync
import UnitWatch.Proofs.Session.Run
import UnitWatch.Proofs.Session.Script
import UnitWatch.Proofs.Session.Service
import UnitWatch.Proofs.Session.Staggered
import UnitWatch.Proofs.Session.Standing
import UnitWatch.Proofs.Session.Steps
import UnitWatch.Proofs.Session.Stopping
import UnitWatch.Proofs.Session.Timing
import UnitWatch.Proofs.Session.Unbroken
import UnitWatch.Proofs.Session.Unwatched
import UnitWatch.Proofs.Settings.Document
import UnitWatch.Proofs.Settings.Failures
import UnitWatch.Proofs.Settings.Respelling
import UnitWatch.Proofs.Supervisor.Daemon
import UnitWatch.Proofs.Supervisor.Delivery
import UnitWatch.Proofs.Supervisor.ExitCode
import UnitWatch.Proofs.Supervisor.Failures
import UnitWatch.Proofs.Supervisor.Isolation
import UnitWatch.Proofs.Supervisor.Lifecycle
import UnitWatch.Proofs.Supervisor.Operations
import UnitWatch.Proofs.Supervisor.Pace
import UnitWatch.Proofs.Supervisor.Progress
import UnitWatch.Proofs.Supervisor.Punctuality
import UnitWatch.Proofs.Supervisor.Termination
import UnitWatch.Proofs.Supervisor.Turns
import UnitWatch.Proofs.Supervisor.World
import UnitWatch.Proofs.Text.LowerCase
import UnitWatch.Proofs.Value
import UnitWatch.Proofs.Wire.Cache
import UnitWatch.Proofs.Wire.Conduct
import UnitWatch.Proofs.Wire.Connections
import UnitWatch.Proofs.Wire.Ledger
import UnitWatch.Proofs.Wire.Parts
import UnitWatch.Proofs.Wire.World
import UnitWatch.Registry
import UnitWatch.Session.Backoff
import UnitWatch.Session.Program
import UnitWatch.Session.Protocol
import UnitWatch.Settings.Basic
import UnitWatch.Settings.Document
import UnitWatch.Settings.Load
import UnitWatch.Simulation.Bus
import UnitWatch.Simulation.Files
import UnitWatch.Simulation.Library
import UnitWatch.Simulation.Scene
import UnitWatch.Simulation.Sender
import UnitWatch.Simulation.Watch
import UnitWatch.Supervisor.Program
import UnitWatch.Supervisor.Protocol
import UnitWatch.Supervisor.State
import UnitWatch.Text.CharacterName
import UnitWatch.Text.CharacterName.From0000
import UnitWatch.Text.CharacterName.From10000
import UnitWatch.Text.CharacterName.From1D000
import UnitWatch.Text.CharacterName.From2000
import UnitWatch.Text.Encoding
import UnitWatch.Text.Identifier
import UnitWatch.Text.LowerCase
import UnitWatch.Text.NameRun
import UnitWatch.Text.Printable
import UnitWatch.Text.Quoted
import UnitWatch.Text.Ranges
import UnitWatch.Text.Word
import UnitWatch.Time
import UnitWatch.Unit.Kind
import UnitWatch.Unit.State
import UnitWatch.Value
import UnitWatch.Wire.Manager
import UnitWatch.Wire.Protocol
import UnitWatch.Wire.Sender
import UnitWatch.Yaml.Cursor
import UnitWatch.Yaml.Data
import UnitWatch.Yaml.Error
import UnitWatch.Yaml.Kind
import UnitWatch.Yaml.Node
import UnitWatch.Yaml.Scalar
import UnitWatch.Yaml.Token
