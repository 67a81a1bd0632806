import TraxOs.Theory.RelyGuarantee
import TraxOs.Api.Ledger
import TraxOs.Api.Versions
import TraxOs.Api.Authority
import TraxOs.Theory.Serializability
import TraxOs.Api.Timelines
import TraxOs.Api.TimelineOperations
import TraxOs.Api.TimelineRuns
import TraxOs.Api.Readability
import TraxOs.PowerSync.Protocol
import TraxOs.PowerSync.Tables
import TraxOs.PowerSync.CommandServer
import TraxOs.PowerSync.Commits
import TraxOs.PowerSync.StatementFacts
import TraxOs.PowerSync.CommitSafety
import TraxOs.PowerSync.CommandSafety
import TraxOs.PowerSync.Histories
import TraxOs.PowerSync.Rotation
import TraxOs.PowerSync.Graveyard
import TraxOs.PowerSync.Receipts
import TraxOs.ApiClient.Formats
import TraxOs.ApiClient.Schemas
import TraxOs.ApiClient.Validator
import TraxOs.ApiClient.Exactness
import TraxOs.ApiClient.Texts
import TraxOs.ApiClient.Responses
import TraxOs.PowerSync.Envelopes
import TraxOs.PowerSync.Agreement
import TraxOs.PowerSync.Concealment
import TraxOs.PowerSync.ApplicationState
import TraxOs.Web.Saves
import TraxOs.Web.Preservation
import TraxOs.Theory.Results
import TraxOs.Api.Replays
import TraxOs.Policy.Narrowing
import TraxOs.Contract.Compatibility
import TraxOs.Theory.Alignments
import TraxOs.Theory.Noninterference
import TraxOs.Theory.Tallies
import TraxOs.PowerSync.ApplicationSafety
import TraxOs.PowerSync.Quarantine
import TraxOs.PowerSync.Resets
import TraxOs.PowerSync.Sidecar
import TraxOs.PowerSync.Relations
import TraxOs.PowerSync.Projection
import TraxOs.Theory.Windows
import TraxOs.PowerSync.RateLimits
import TraxOs.Theory.SharedAttempts
import TraxOs.ApiClient.Client
import TraxOs.Api.Renumbering
import TraxOs.Api.Staleness
import TraxOs.Api.Swaps
import TraxOs.Theory.JsonTexts
import TraxOs.Theory.Finishing
import TraxOs.Theory.Promises
import TraxOs.Theory.Aliases
import TraxOs.Api.Digests
import TraxOs.PowerSync.Answers
import TraxOs.PowerSync.Reservations
import TraxOs.Boundaries.ModuleMap
import TraxOs.PowerSync.SerialGate
import TraxOs.Boundaries.PythonImports
import TraxOs.Boundaries.RelativeImports
import TraxOs.Boundaries.DynamicImports
import TraxOs.Theory.Awaiting
import TraxOs.PowerSync.ReplicaReset
import TraxOs.PowerSync.ResetFiles
import TraxOs.PowerSync.ResetSafety
import TraxOs.PowerSync.NothingLost
import TraxOs.PowerSync.ClientChanges
import TraxOs.PowerSync.ReplicaServer
import TraxOs.PowerSync.ResetCounts
import TraxOs.Api.Footprints
import TraxOs.Theory.Effects
import TraxOs.Api.PackingEdits
import TraxOs.Theory.Peers
import TraxOs.Theory.References
import TraxOs.Api.Integrity
import TraxOs.Api.Confinement
import TraxOs.Theory.Unwinding
import TraxOs.Api.Twins
import TraxOs.Api.Isolation
import TraxOs.Auth.Sessions
import TraxOs.Theory.Retries
import TraxOs.Api.UpdateOutcomes
import TraxOs.Web.Retries
import TraxOs.Web.RetryRuns
