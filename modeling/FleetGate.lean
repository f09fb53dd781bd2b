import FleetGate.Cache.Schedule
import FleetGate.Main
import FleetGate.Fleet.Decode
import FleetGate.Fleet.InMemory
import FleetGate.Identity.Decode
import FleetGate.Identity.Encode
import FleetGate.Identity.Pseudonym
import FleetGate.Impersonation
import FleetGate.Json.Reader
import FleetGate.Json.Writer
import FleetGate.Net.Host
import FleetGate.Resource.Kubeconfig
import FleetGate.Resource.Listing
import FleetGate.Cluster.Encode
import FleetGate.Settings.Encode
import FleetGate.Shaping.Encode
import FleetGate.Tools.Dispatch
import FleetGate.Wire.Backend
import FleetGate.Proofs.Cache.Store
import FleetGate.Proofs.Cache.Moves
import FleetGate.Proofs.Cache.Flights
import FleetGate.Proofs.Cache.SingleFlight
import FleetGate.Proofs.Cache.Provenance
import FleetGate.Proofs.Cache.Schedule
import FleetGate.Proofs.Cache.Shutdown
import FleetGate.Proofs.Fleet.Construction
import FleetGate.Proofs.Fleet.Run
import FleetGate.Proofs.Fleet.Operations
import FleetGate.Proofs.Fleet.Callers
import FleetGate.Proofs.Cache.Invalidation
import FleetGate.Proofs.Json.Agreement
import FleetGate.Proofs.Shaping.Masking
import FleetGate.Proofs.Shaping.Slimming
import FleetGate.Proofs.Cluster.Listing
import FleetGate.Proofs.Shaping.ListedSecrets
import FleetGate.Proofs.Except
import FleetGate.Proofs.Identity.Validation
import FleetGate.Proofs.Text.Trim
import FleetGate.Proofs.Identity.Normalization
import FleetGate.Proofs.Impersonation.Headers
import FleetGate.Proofs.Impersonation.Marks
import FleetGate.Proofs.Cache.Lockstep
import FleetGate.Proofs.Parallel
import FleetGate.Proofs.Fleet.Detail
import FleetGate.Proofs.Tools.Confinement
import FleetGate.Proofs.Cache.Alone
import FleetGate.Proofs.Cache.Answer
import FleetGate.Proofs.Fleet.Uninterrupted
import FleetGate.Proofs.Fleet.Existence
import FleetGate.Proofs.Cache.Books
import FleetGate.Proofs.Shaping.Budget
import FleetGate.Proofs.Cache.Cancellation
import FleetGate.Proofs.Cache.Housekeeping
import FleetGate.Proofs.Cache.Sharing
import FleetGate.Proofs.Cache.Capacity
import FleetGate.Proofs.Text.Search
import FleetGate.Proofs.Labels.Names
import FleetGate.Proofs.Labels.Selector
import FleetGate.Proofs.Cache.Kept
import FleetGate.Proofs.Cluster.Paging
import FleetGate.Proofs.Fleet.Lookup
import FleetGate.Proofs.Json.Records
import FleetGate.Proofs.Text.Case
import FleetGate.Proofs.Cache.Labors
import FleetGate.Proofs.Fleet.Deeds
import FleetGate.Proofs.Tools.Listing
import FleetGate.Proofs.Fleet.Kubeconfigs
import FleetGate.Proofs.Fleet.SideBySide
import FleetGate.Proofs.Fleet.Calls
import FleetGate.Proofs.Fleet.Preflight
import FleetGate.Proofs.Fleet.Evaluation
import FleetGate.Proofs.Tools.Evaluation
import FleetGate.Proofs.Cache.Intake
import FleetGate.Proofs.Fleet.Privilege
import FleetGate.Proofs.Fleet.Sites
import FleetGate.Proofs.Fleet.AccessChecks
import FleetGate.Proofs.Tools.Acts
import FleetGate.Proofs.Tools.LiveChecks
import FleetGate.Proofs.Labels.Conjunction
import FleetGate.Proofs.Cache.Expiry
import FleetGate.Proofs.Shaping.Limits
import FleetGate.Proofs.Settings.Layers
import FleetGate.Proofs.Settings.Layering
import FleetGate.Proofs.Tools.Naming
import FleetGate.Proofs.Cache.Eviction
import FleetGate.Proofs.Shaping.Edits
import FleetGate.Proofs.Shaping.Leftovers
import FleetGate.Proofs.Json.Pruning
import FleetGate.Proofs.Shaping.Extent
import FleetGate.Proofs.Shaping.Warnings
import FleetGate.Proofs.Shaping.Statuses
import FleetGate.Proofs.Shaping.Tally
import FleetGate.Proofs.Shaping.Summary
import FleetGate.Proofs.Shaping.SummarySize
import FleetGate.Proofs.Fleet.Renewal
import FleetGate.Proofs.Identity.Email
import FleetGate.Proofs.Identity.Renormalization
import FleetGate.Proofs.Shaping.Sensitivity
import FleetGate.Proofs.Fleet.Search
import FleetGate.Proofs.Impersonation.Application
import FleetGate.Proofs.Settings.Masking
import FleetGate.Proofs.Cluster.Pages
import FleetGate.Proofs.Cluster.Totals
import FleetGate.Proofs.Json.MergePatch
import FleetGate.Proofs.Cluster.Patching
import FleetGate.Proofs.Text.Respacing
import FleetGate.Proofs.Labels.Terms
import FleetGate.Proofs.Labels.WhiteSpace
import FleetGate.Proofs.Cluster.LabelMatching
import FleetGate.Proofs.Net.Address
import FleetGate.Proofs.Net.HostParts
import FleetGate.Proofs.Net.Written
import FleetGate.Proofs.Net.Redaction
import FleetGate.Proofs.Net.Exposure
import FleetGate.Proofs.Cluster.Contents
import FleetGate.Proofs.Cache.Closers
import FleetGate.Proofs.Fleet.Verdicts
