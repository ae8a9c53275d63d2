import StorageController.Number.Shortest
import StorageController.Text.Unicode.Blank
import StorageController.Text.Unicode.Digit
import StorageController.Text.Unicode.Lowercase
import StorageController.Text.Unicode.Printable
import StorageController.Text.Unicode.Word
import StorageController.Json.Basic
import StorageController.Json.Subset
import StorageController.Json.Merge
import StorageController.Json.Diff
import StorageController.Json.Path
import StorageController.Json.Display
import StorageController.Json.Reader
import StorageController.Directive
import StorageController.Redaction.Document
import StorageController.StatefulSet.Manifest
import StorageController.StatefulSet.Managed
import StorageController.Condition
import StorageController.Timestamp
import StorageController.Duration
import StorageController.Settings
import StorageController.Pass.Logging
import StorageController.Pass.Tracing
import StorageController.Pass.Reconcile
import StorageController.Cluster.Rehearsal
import StorageController.Cluster.Script
import StorageController.Dispatch
import StorageController.Client
import StorageController.Health
import StorageController.Throttle
import StorageController.Pass.Work
import StorageController.SpanExport
import StorageController.Startup
import StorageController.Main
import StorageController.Proofs.Pass.Classification
import StorageController.Proofs.Pass.PatchFrame
import StorageController.Proofs.Pass.LostUpdate
import StorageController.Proofs.Pass.Convergence
import StorageController.Proofs.Retry
import StorageController.Proofs.Pass.Course
import StorageController.Proofs.Pass.StatusSettling
import StorageController.Proofs.RequestRate
import StorageController.Proofs.Cluster.World
import StorageController.Proofs.Cluster.StatusCoherence
import StorageController.Proofs.Cluster.StatusGenerations
import StorageController.Proofs.Cluster.ForeignConditions
import StorageController.Proofs.Cluster.Lineage
import StorageController.Proofs.Cluster.Feedback
import StorageController.Proofs.Cluster.ReadyCount
import StorageController.Proofs.Disclosure
import StorageController.Proofs.Cluster.Isolation
import StorageController.Proofs.Redaction.Credentials
import StorageController.Proofs.Redaction.VisitingOrder
import StorageController.Proofs.Redaction.Repetition
import StorageController.Proofs.Json.MinimalPatch
import StorageController.Proofs.Pass.Accounts
import StorageController.Proofs.Client
import StorageController.Proofs.Attribution
import StorageController.Proofs.Condition.History
import StorageController.Proofs.Pass.Change
import StorageController.Proofs.Redaction.FurtherKeys
import StorageController.Proofs.Topology.Outcome
import StorageController.Proofs.RequestRate.SetClock
import StorageController.Proofs.Json.SubsetOrder
import StorageController.Proofs.Pass.Tracing
import StorageController.Proofs.StatefulSet.CanonicalText
