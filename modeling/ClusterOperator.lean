import ClusterOperator.ApiServer.Call
import ClusterOperator.ApiServer.Reply
import ClusterOperator.ApiServer.Store
import ClusterOperator.Backoff
import ClusterOperator.Builder.Basic
import ClusterOperator.Builder.Exposure
import ClusterOperator.Builder.Labels
import ClusterOperator.Builder.Ports
import ClusterOperator.Builder.Workload
import ClusterOperator.Child.Basic
import ClusterOperator.Child.Document
import ClusterOperator.Cluster.Basic
import ClusterOperator.Cluster.Defaults
import ClusterOperator.Cluster.Document
import ClusterOperator.Cluster.Spec
import ClusterOperator.Cluster.Validation
import ClusterOperator.CommandLine.Basic
import ClusterOperator.CommandLine.LogFilter
import ClusterOperator.CommandLine.Pattern
import ClusterOperator.Condition.Basic
import ClusterOperator.Condition.Document
import ClusterOperator.Definition.Basic
import ClusterOperator.Definition.Manifest
import ClusterOperator.Definition.Resources
import ClusterOperator.DependencyIndex
import ClusterOperator.Duration.Basic
import ClusterOperator.Duration.Reader
import ClusterOperator.Duration.Text
import ClusterOperator.Error
import ClusterOperator.Error.Document
import ClusterOperator.Frontend.Address
import ClusterOperator.Frontend.Call
import ClusterOperator.Frontend.Client
import ClusterOperator.HostName.Basic
import ClusterOperator.HostName.Composition
import ClusterOperator.HostName.Direction
import ClusterOperator.HostName.Joining
import ClusterOperator.HostName.Mapping.Basic
import ClusterOperator.HostName.Mapping.Expansion
import ClusterOperator.HostName.Mapping.Shift
import ClusterOperator.HostName.Punycode
import ClusterOperator.Http.Basic
import ClusterOperator.Instant.Basic
import ClusterOperator.Instant.Text
import ClusterOperator.Json.Basic
import ClusterOperator.Json.Cursor
import ClusterOperator.Json.Fault
import ClusterOperator.Json.Float
import ClusterOperator.Json.MergePatch
import ClusterOperator.Json.Number
import ClusterOperator.Json.Pass
import ClusterOperator.Json.Pointer
import ClusterOperator.Json.Reader
import ClusterOperator.Json.Record
import ClusterOperator.Json.Shape
import ClusterOperator.Json.Text
import ClusterOperator.Json.Time
import ClusterOperator.Json.Writer
import ClusterOperator.Json.Yaml
import ClusterOperator.Main
import ClusterOperator.Namespace.Basic
import ClusterOperator.Namespace.Document
import ClusterOperator.Network
import ClusterOperator.Object.Document
import ClusterOperator.Object.Metadata
import ClusterOperator.Object.Patch
import ClusterOperator.OperatorState
import ClusterOperator.Pass.Attributes
import ClusterOperator.Pass.Children
import ClusterOperator.Pass.Cluster
import ClusterOperator.Pass.Namespace
import ClusterOperator.Pass.Outcome
import ClusterOperator.Program.Basic
import ClusterOperator.Program.Environment
import ClusterOperator.Program.Request
import ClusterOperator.Proofs.ApiServer.Agreement
import ClusterOperator.Proofs.ApiServer.Patch
import ClusterOperator.Proofs.Attribute.Plan
import ClusterOperator.Proofs.Attribute.Planning
import ClusterOperator.Proofs.Attribute.Rounds
import ClusterOperator.Proofs.Backoff.Attempts
import ClusterOperator.Proofs.Backoff.Delay
import ClusterOperator.Proofs.Binary64.Arithmetic
import ClusterOperator.Proofs.Binary64.Nearest
import ClusterOperator.Proofs.Binary64.Packing
import ClusterOperator.Proofs.Binary64.Rounding
import ClusterOperator.Proofs.Builder.Description
import ClusterOperator.Proofs.Builder.Frame
import ClusterOperator.Proofs.Builder.Keys
import ClusterOperator.Proofs.Builder.Ports
import ClusterOperator.Proofs.Builder.Refusal
import ClusterOperator.Proofs.Builder.Routing
import ClusterOperator.Proofs.Builder.Shape
import ClusterOperator.Proofs.Child.Document
import ClusterOperator.Proofs.Cluster.Children
import ClusterOperator.Proofs.Cluster.Convergence
import ClusterOperator.Proofs.Cluster.Defaulted
import ClusterOperator.Proofs.Cluster.Ending
import ClusterOperator.Proofs.Cluster.Filling
import ClusterOperator.Proofs.Cluster.Interruption
import ClusterOperator.Proofs.Cluster.Readiness
import ClusterOperator.Proofs.Cluster.Report
import ClusterOperator.Proofs.Cluster.Requests
import ClusterOperator.Proofs.Cluster.Rereading
import ClusterOperator.Proofs.Cluster.Rollout
import ClusterOperator.Proofs.Cluster.Tending
import ClusterOperator.Proofs.Cluster.Validity
import ClusterOperator.Proofs.Cluster.Work
import ClusterOperator.Proofs.Condition.Document
import ClusterOperator.Proofs.Condition.History
import ClusterOperator.Proofs.Condition.Ledger
import ClusterOperator.Proofs.Condition.Settled
import ClusterOperator.Proofs.Duration.Grammar
import ClusterOperator.Proofs.Duration.RoundTrip
import ClusterOperator.Proofs.Duration.Rounding
import ClusterOperator.Proofs.Duration.Seconds
import ClusterOperator.Proofs.Duration.Written
import ClusterOperator.Proofs.Except
import ClusterOperator.Proofs.Index.Basic
import ClusterOperator.Proofs.Index.Order
import ClusterOperator.Proofs.Index.Records
import ClusterOperator.Proofs.Index.Scan
import ClusterOperator.Proofs.Index.Upkeep
import ClusterOperator.Proofs.Instant.Calendar
import ClusterOperator.Proofs.Instant.Parts
import ClusterOperator.Proofs.Instant.Text
import ClusterOperator.Proofs.Json.MergePatch
import ClusterOperator.Proofs.Json.Record
import ClusterOperator.Proofs.Namespace.Connection
import ClusterOperator.Proofs.Namespace.Conversation
import ClusterOperator.Proofs.Namespace.Departure
import ClusterOperator.Proofs.Namespace.Document
import ClusterOperator.Proofs.Namespace.Release
import ClusterOperator.Proofs.Namespace.RemoteDeletion
import ClusterOperator.Proofs.Namespace.Requests
import ClusterOperator.Proofs.Namespace.Settling
import ClusterOperator.Proofs.Namespace.Talk
import ClusterOperator.Proofs.Namespace.Work
import ClusterOperator.Proofs.Object.Reading
import ClusterOperator.Proofs.Order.Children
import ClusterOperator.Proofs.Order.Closing
import ClusterOperator.Proofs.Order.ClusterPass
import ClusterOperator.Proofs.Order.NamespacePass
import ClusterOperator.Proofs.Order.Passes
import ClusterOperator.Proofs.Order.Realm
import ClusterOperator.Proofs.Order.Upkeep
import ClusterOperator.Proofs.Program.Conclusion
import ClusterOperator.Proofs.Program.History
import ClusterOperator.Proofs.Program.Notes
import ClusterOperator.Proofs.Program.Perform
import ClusterOperator.Proofs.Program.Script
import ClusterOperator.Proofs.Program.Solitary
import ClusterOperator.Proofs.Program.Trace
import ClusterOperator.Proofs.Run.Basic
import ClusterOperator.Proofs.Run.Closing
import ClusterOperator.Proofs.Run.Conflict
import ClusterOperator.Proofs.Run.Entry
import ClusterOperator.Proofs.Run.Failures
import ClusterOperator.Proofs.Run.Filling
import ClusterOperator.Proofs.Run.Gating
import ClusterOperator.Proofs.Run.Invariant
import ClusterOperator.Proofs.Run.Keeping
import ClusterOperator.Proofs.Run.Ownership
import ClusterOperator.Proofs.Run.Passes
import ClusterOperator.Proofs.Run.Patching
import ClusterOperator.Proofs.Run.Readiness
import ClusterOperator.Proofs.Run.Recording
import ClusterOperator.Proofs.Run.Refusal
import ClusterOperator.Proofs.Run.Schedule
import ClusterOperator.Proofs.Run.Sharing
import ClusterOperator.Proofs.Run.Success
import ClusterOperator.Proofs.Run.Traced
import ClusterOperator.Proofs.Run.Writes
import ClusterOperator.Proofs.Simulation.Calm
import ClusterOperator.Proofs.Store.Change
import ClusterOperator.Proofs.Store.Patch
import ClusterOperator.Proofs.Store.Reached
import ClusterOperator.Proofs.Store.Version
import ClusterOperator.Retry
import ClusterOperator.SearchAttribute.Document
import ClusterOperator.SearchAttribute.Plan
import ClusterOperator.SearchAttribute.Type
import ClusterOperator.Settings
import ClusterOperator.Simulation.Document
import ClusterOperator.Simulation.Server
import ClusterOperator.Simulation.World
import ClusterOperator.SortedMap.Basic
import ClusterOperator.SortedMap.Lemmas
import ClusterOperator.Store.Answer
import ClusterOperator.Store.Basic
import ClusterOperator.Store.Edit
import ClusterOperator.Text.Basic
import ClusterOperator.Text.Letter
import ClusterOperator.Text.Quoted
import ClusterOperator.Text.ShortestDecimal
import ClusterOperator.Url.Address
import ClusterOperator.Url.Basic
import ClusterOperator.Url.Host
