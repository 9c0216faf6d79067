import ServiceBinding.Breaker.Circuit
import ServiceBinding.Breaker.Operation
import ServiceBinding.Breaker.Window
import ServiceBinding.Bulkhead
import ServiceBinding.Bulkhead.Holders
import ServiceBinding.Clock
import ServiceBinding.Command.Commands
import ServiceBinding.Command.Config
import ServiceBinding.Command.Error
import ServiceBinding.Command.Execution
import ServiceBinding.Command.Overrides
import ServiceBinding.Command.Settings
import ServiceBinding.Component.Basic
import ServiceBinding.Component.Direct
import ServiceBinding.Component.Uri
import ServiceBinding.Data.Double
import ServiceBinding.Data.Ordered
import ServiceBinding.Data.Table
import ServiceBinding.Data.Width
import ServiceBinding.Files
import ServiceBinding.Invocation.Basic
import ServiceBinding.Invocation.Codec
import ServiceBinding.Invocation.Error
import ServiceBinding.Invocation.Router
import ServiceBinding.Json.Decode
import ServiceBinding.Json.Document
import ServiceBinding.Json.Numeral
import ServiceBinding.Json.Printer
import ServiceBinding.Json.Reader
import ServiceBinding.Json.Value
import ServiceBinding.Logging
import ServiceBinding.Logging.Filter
import ServiceBinding.Logging.Level
import ServiceBinding.Logging.Pattern
import ServiceBinding.Proxy.Basic
import ServiceBinding.Proxy.Call
import ServiceBinding.Proxy.Rebind
import ServiceBinding.Proxy.Recheck
import ServiceBinding.Proxy.Settings
import ServiceBinding.Registry.Cache
import ServiceBinding.Registry.Configured
import ServiceBinding.Registry.Error
import ServiceBinding.Registry.Exporter
import ServiceBinding.Registry.Leases
import ServiceBinding.Service.Descriptor
import ServiceBinding.Service.Entry
import ServiceBinding.Service.Key
import ServiceBinding.Service.Properties
import ServiceBinding.Service.Wire
import ServiceBinding.Simulation.Activity
import ServiceBinding.Simulation.Bindings
import ServiceBinding.Simulation.Calls
import ServiceBinding.Simulation.Labels
import ServiceBinding.Simulation.Reply
import ServiceBinding.Simulation.Restaurants
import ServiceBinding.Simulation.Scenario
import ServiceBinding.Simulation.Schedule
import ServiceBinding.Simulation.Script
import ServiceBinding.Simulation.World
import ServiceBinding.Text.AlphanumericTable
import ServiceBinding.Text.Blank
import ServiceBinding.Text.Bytes
import ServiceBinding.Text.CaseTable
import ServiceBinding.Text.Escaped
import ServiceBinding.Text.InvisibleTable
import ServiceBinding.Text.Lowercase
import ServiceBinding.Text.Numeral
import ServiceBinding.Text.Parts
import ServiceBinding.Text.Ranges
import ServiceBinding.Text.Replacement
import ServiceBinding.Toml.Reader
import ServiceBinding.Toml.Scalar
import ServiceBinding.Toml.Table
import ServiceBinding.Versioning.Edits
import ServiceBinding.Versioning.Migration
import ServiceBinding.Versioning.Provider
import ServiceBinding.Proofs.Breaker.Admission
import ServiceBinding.Proofs.Breaker.DomainFailures
import ServiceBinding.Proofs.SharedProxy.Attempts
import ServiceBinding.Proofs.SharedProxy.Disconnects
import ServiceBinding.Proofs.SharedProxy.Fatal
import ServiceBinding.Proofs.SharedProxy.History
import ServiceBinding.Proofs.SharedProxy.Invalidation
import ServiceBinding.Proofs.SharedProxy.Invariant
import ServiceBinding.Proofs.SharedProxy.Move
import ServiceBinding.Proofs.SharedProxy.Run
import ServiceBinding.Proofs.SharedProxy.Simulated
import ServiceBinding.Proofs.SharedProxy.Throttle
import ServiceBinding.Proofs.Breaker.Counted
import ServiceBinding.Proofs.Breaker.Opening
import ServiceBinding.Proofs.Breaker.Stale
import ServiceBinding.Proofs.Bulkhead.Occupied
import ServiceBinding.Proofs.SharedCommand.Run
import ServiceBinding.Proofs.SharedCommand.Invariant
import ServiceBinding.Proofs.SharedCommand.Bounded
import ServiceBinding.Proofs.SharedCommand.Log
import ServiceBinding.Proofs.SharedCommand.Outcomes
import ServiceBinding.Proofs.SharedCommand.Simulated
import ServiceBinding.Proofs.Registry.Run
import ServiceBinding.Proofs.Registry.Listed
import ServiceBinding.Proofs.Registry.Log
import ServiceBinding.Proofs.Registry.Reordered
import ServiceBinding.Proofs.Registry.Cached
import ServiceBinding.Proofs.Registry.Simulated
import ServiceBinding.Proofs.SharedCommands.Run
import ServiceBinding.Proofs.SharedCommands.Isolated
import ServiceBinding.Proofs.GuardedProxy.Run
import ServiceBinding.Proofs.SharedCommand.Answers
import ServiceBinding.Proofs.GuardedProxy.Surface
import ServiceBinding.Proofs.SharedCache.Run
import ServiceBinding.Proofs.SharedCache.Staleness
import ServiceBinding.Proofs.SharedCache.Writes
import ServiceBinding.Proofs.SharedCache.Simulated
import ServiceBinding.Proofs.Exporters.Run
import ServiceBinding.Proofs.Exporters.Simulated
import ServiceBinding.Proofs.Exporters.Remembered
import ServiceBinding.Proofs.Exporters.Renewal
import ServiceBinding.Proofs.Exporters.Withdrawal
import ServiceBinding.Proofs.Versioning.Mirror
import ServiceBinding.Proofs.Versioning.EndToEnd
import ServiceBinding.Proofs.SharedCommands.Keys
import ServiceBinding.Proofs.SharedCommands.Validated
import ServiceBinding.Proofs.Breaker.Allowed
import ServiceBinding.Proofs.Versioning.Composed
import ServiceBinding.Proofs.SharedProxy.LoneRecheck
import ServiceBinding.Proofs.SharedProxy.Reconciled
import ServiceBinding.Proofs.SharedProxy.Sequential
import ServiceBinding.Proofs.SharedProxy.DisconnectRule
import ServiceBinding.Proofs.Breaker.Watched
import ServiceBinding.Proofs.Breaker.Retained
import ServiceBinding.Proofs.Bulkhead.Settled
import ServiceBinding.Proofs.Bulkhead.Line
import ServiceBinding.Proofs.Bulkhead.Fair
import ServiceBinding.Proofs.Registry.Swept
import ServiceBinding.Proofs.Configuration.Layers
import ServiceBinding.Proofs.Configuration.Environment
import ServiceBinding.Proofs.Invocation.Arguments
import ServiceBinding.Proofs.Wire.Documents
import ServiceBinding.Proofs.Wire.RoundTrip
import ServiceBinding.Proofs.Exporters.Publisher
import ServiceBinding.Proofs.Exporters.Round
import ServiceBinding.Proofs.Component.Uri
import ServiceBinding.Proofs.Registry.Configured
