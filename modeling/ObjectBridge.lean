import ObjectBridge.Configuration.Discovery
import ObjectBridge.Declaration.Expansion
import ObjectBridge.Host.Samples
import ObjectBridge.Logging.Process
import ObjectBridge.Proofs.Accounting
import ObjectBridge.Proofs.Coherence
import ObjectBridge.Proofs.Failures
import ObjectBridge.Proofs.Scenarios
import ObjectBridge.Proofs.Tracing
import ObjectBridge.Proofs.Registry
import ObjectBridge.Proofs.Resubmission
import ObjectBridge.Proofs.Boundary
import ObjectBridge.Proofs.Expansion
import ObjectBridge.Proofs.Pipeline
import ObjectBridge.Proofs.RoundTrip
import ObjectBridge.Proofs.Plates
import ObjectBridge.Proofs.Strictness
import ObjectBridge.Proofs.Interleaving
import ObjectBridge.Proofs.Acceptance
import ObjectBridge.Proofs.Resolution
import ObjectBridge.Proofs.FirstFaults
import ObjectBridge.Proofs.Collapse
import ObjectBridge.Proofs.Conformance
import ObjectBridge.Proofs.Restoration
import ObjectBridge.Proofs.DeclarationFaults
import ObjectBridge.Proofs.StoredConfiguration
import ObjectBridge.Proofs.SearchPath
import ObjectBridge.Proofs.Discovery
import ObjectBridge.Proofs.Buildings
import ObjectBridge.Proofs.Equality
import ObjectBridge.Proofs.StructuralForm
import ObjectBridge.Proofs.DistinctKeys
import ObjectBridge.Proofs.FieldByField
import ObjectBridge.Proofs.Snapshots
import ObjectBridge.Proofs.Lookups
import ObjectBridge.Proofs.Interactions
import ObjectBridge.Proofs.Directives
import ObjectBridge.Proofs.Filters
import ObjectBridge.Proofs.Clauses
import ObjectBridge.Proofs.Bindings
import ObjectBridge.Proofs.Unwrapping
import ObjectBridge.Proofs.FirstLog
