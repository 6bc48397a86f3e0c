import Sip.Archive.Identity
import Sip.Archive.Locations
import Sip.Archive.Safety
import Sip.Archive.Writing
import Sip.Assets.Completion
import Sip.Assets.CompletionRaces
import Sip.Assets.Concurrency
import Sip.Assets.Envelope
import Sip.Assets.KeyRotation
import Sip.Assets.Multipart
import Sip.Assets.ResumeStatus
import Sip.Assets.Service
import Sip.Assets.Store
import Sip.Audit.Chain
import Sip.Audit.Commitment
import Sip.Audit.Order
import Sip.Audit.Service
import Sip.Audit.Successive
import Sip.Canonical
import Sip.Capture.Commitment
import Sip.Capture.FrameOrder
import Sip.Capture.MerkleTree
import Sip.Capture.Package
import Sip.Capture.Writing
import Sip.Construction.Deficiencies
import Sip.Construction.Disclosure
import Sip.Construction.Issues
import Sip.Construction.OwnerHandoff
import Sip.Construction.OwnerPackage
import Sip.Construction.RestrictedData
import Sip.Construction.RestrictedExport
import Sip.Construction.Scrubbing
import Sip.Database
import Sip.Deployment.Admission
import Sip.Deployment.EdgeNodes
import Sip.Deployment.UpdateHistory
import Sip.Errors
import Sip.Events
import Sip.Foundation.AesGcm
import Sip.Foundation.Base64
import Sip.Foundation.Base64Url
import Sip.Foundation.BestFirst
import Sip.Foundation.Box
import Sip.Foundation.CivilTime
import Sip.Foundation.EditDistance
import Sip.Foundation.HashChain
import Sip.Foundation.HashEvaluation
import Sip.Foundation.Interleaving
import Sip.Foundation.Json
import Sip.Foundation.JsonDocument
import Sip.Foundation.JsonParse
import Sip.Foundation.JsonSize
import Sip.Foundation.JsonText
import Sip.Foundation.Methods
import Sip.Foundation.PlainDigests
import Sip.Foundation.RoundedSum
import Sip.Foundation.Runs
import Sip.Foundation.Sha256
import Sip.Foundation.SortBy
import Sip.Foundation.Table
import Sip.Hybrid.Admission
import Sip.Hybrid.Consent
import Sip.Hybrid.Database
import Sip.Hybrid.Endings
import Sip.Hybrid.Execution
import Sip.Hybrid.Leases
import Sip.Hybrid.Manual
import Sip.Hybrid.Progress
import Sip.Hybrid.Returned
import Sip.Hybrid.Sources
import Sip.Hybrid.Tokens
import Sip.Intelligence.Budget
import Sip.Intelligence.QueueSnapshots
import Sip.Intelligence.ReservationConcurrency
import Sip.Intelligence.Reservations
import Sip.Intelligence.SupportBundle
import Sip.Lifecycle.Deletions
import Sip.Lifecycle.Holds
import Sip.Lifecycle.Quota
import Sip.Lifecycle.QuotaConcurrency
import Sip.Lifecycle.QuotaDenials
import Sip.Lifecycle.SnapshotAge
import Sip.LiveForever.Database
import Sip.LiveForever.Editions
import Sip.LiveForever.Effects
import Sip.LiveForever.Review
import Sip.LiveForever.Service
import Sip.LiveForever.Visibility
import Sip.Operations.Admission
import Sip.Operations.Attempts
import Sip.Operations.Cancellation
import Sip.Operations.Checkpoints
import Sip.Operations.Exclusivity
import Sip.Operations.LeaseInvariant
import Sip.Operations.Lifting
import Sip.Operations.Service
import Sip.Operations.Transitions
import Sip.Policy.Monotone
import Sip.Policy.Service
import Sip.Preservation.Archive
import Sip.Preservation.Commitment
import Sip.Preservation.Export
import Sip.Preservation.Records
import Sip.Preservation.RoundTrip
import Sip.Preservation.Unpacking
import Sip.Preservation.Verification
import Sip.PyEquality
import Sip.PyValue
import Sip.Recovery.Database
import Sip.Recovery.Retention
import Sip.Representation.Database
import Sip.Representation.Inheritance
import Sip.Representation.Invalidation
import Sip.Representation.Providers
import Sip.Representation.Publication
import Sip.Representation.Publisher
import Sip.Representation.Service
import Sip.Representation.Views
import Sip.Scene.Concurrency
import Sip.Scene.Import
import Sip.Scene.Rollback
import Sip.Scene.Service
import Sip.Search.EditDistance
import Sip.Search.Filters
import Sip.Search.Isolation
import Sip.Search.Meaning
import Sip.Search.Query
import Sip.Search.SavedQueries
import Sip.Security.PrivilegedAccess
import Sip.Security.SubjectAccess
import Sip.Security.TokenStrings
import Sip.Security.WorkloadIdentity
import Sip.Spatial.AssertionPrivacy
import Sip.Spatial.Assertions
import Sip.Spatial.FrameHistory
import Sip.Spatial.ManifestHistory
import Sip.Spatial.Manifests
import Sip.Spatial.MeasurementTruth
import Sip.Spatial.Measurements
import Sip.Spatial.Merge
import Sip.Spatial.MergeConcurrency
import Sip.Spatial.MergeLaws
import Sip.Spatial.MergeReview
import Sip.Spatial.RollbackEvents
import Sip.Spatial.SceneIsolation
import Sip.Spatial.TransformContract
import Sip.Spatial.TransformGraph
import Sip.Transaction
import Sip.Worker.Execution
import Sip.Worker.Handlers
import Sip.Worker.Protocol
import Sip.Worker.Queue
