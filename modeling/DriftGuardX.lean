import DriftGuardX.Admission.Agreement
import DriftGuardX.Admission.Audit
import DriftGuardX.Admission.Budget
import DriftGuardX.Admission.Lifecycle
import DriftGuardX.Admission.PersistedReceipt
import DriftGuardX.Admission.PoolAccounting
import DriftGuardX.Admission.PostgresStore
import DriftGuardX.Admission.Receipt
import DriftGuardX.Admission.ResourceAccount
import DriftGuardX.Admission.SqliteStore
import DriftGuardX.Admission.Tables
import DriftGuardX.Agents.FinalAnswer
import DriftGuardX.Agents.Pipeline
import DriftGuardX.Agents.Quarantine
import DriftGuardX.Agents.Routing
import DriftGuardX.Api.Finalization
import DriftGuardX.Bcrb.Accounting
import DriftGuardX.Bcrb.CalibrationError
import DriftGuardX.Bcrb.Orchestrator
import DriftGuardX.Bcrb.TestOrder
import DriftGuardX.Bcrb.Verdict
import DriftGuardX.Benchmark.ControlledReplay
import DriftGuardX.Certification.Approval
import DriftGuardX.Certification.ApprovedRecovery
import DriftGuardX.Certification.DiagnosedReplay
import DriftGuardX.Certification.OneDecision
import DriftGuardX.Certification.RecoveryLoop
import DriftGuardX.Certification.Sessions
import DriftGuardX.Certification.Verification
import DriftGuardX.Diffusion.Engine
import DriftGuardX.Diffusion.Explanations
import DriftGuardX.Evaluation.Bounds
import DriftGuardX.Evaluation.ConformalCoverage
import DriftGuardX.Evaluation.CoverageMonitor
import DriftGuardX.Evaluation.Reliability
import DriftGuardX.Foundation.BreadthFirst
import DriftGuardX.Foundation.Bytes
import DriftGuardX.Foundation.Calendar
import DriftGuardX.Foundation.CharacterReferences
import DriftGuardX.Foundation.ClampedSum
import DriftGuardX.Foundation.Closure
import DriftGuardX.Foundation.Datetime
import DriftGuardX.Foundation.DepthFirst
import DriftGuardX.Foundation.Dictionary
import DriftGuardX.Foundation.Digest
import DriftGuardX.Foundation.Dominance
import DriftGuardX.Foundation.Frames
import DriftGuardX.Foundation.Framing
import DriftGuardX.Foundation.HashChain
import DriftGuardX.Foundation.HashTree
import DriftGuardX.Foundation.History
import DriftGuardX.Foundation.Isoformat
import DriftGuardX.Foundation.KeyTable
import DriftGuardX.Foundation.Lines
import DriftGuardX.Foundation.NanOrder
import DriftGuardX.Foundation.OrderStatistic
import DriftGuardX.Foundation.Patches
import DriftGuardX.Foundation.Patterns
import DriftGuardX.Foundation.PercentEncoding
import DriftGuardX.Foundation.Program
import DriftGuardX.Foundation.Runs
import DriftGuardX.Foundation.Selection
import DriftGuardX.Foundation.Shares
import DriftGuardX.Foundation.SimplePath
import DriftGuardX.Foundation.Staging
import DriftGuardX.Foundation.TopologicalOrder
import DriftGuardX.Foundation.Transaction
import DriftGuardX.Foundation.Walk
import DriftGuardX.Foundation.Words
import DriftGuardX.Graph.Builder
import DriftGuardX.Graph.Contracts
import DriftGuardX.Graph.GraphHash
import DriftGuardX.Graph.Validation
import DriftGuardX.Incident.Discipline
import DriftGuardX.Incident.EntropyConvergence
import DriftGuardX.Incident.Evidence
import DriftGuardX.Incident.Histories
import DriftGuardX.Incident.MinimumEvidence
import DriftGuardX.Incident.Orchestrator
import DriftGuardX.Incident.Refusal
import DriftGuardX.Incident.Resources
import DriftGuardX.Incident.StateMachine
import DriftGuardX.Incident.StoppingRule
import DriftGuardX.Incident.TransitionPath
import DriftGuardX.Ingestion.Chunker
import DriftGuardX.Ingestion.Spans
import DriftGuardX.Isolation.Invariance
import DriftGuardX.Isolation.Isolator
import DriftGuardX.Jobs.Orchestrator
import DriftGuardX.Jobs.Submission
import DriftGuardX.Jobs.TerminalStatuses
import DriftGuardX.Json.Access
import DriftGuardX.Json.Canonical
import DriftGuardX.Json.Layout
import DriftGuardX.Json.Literal
import DriftGuardX.Json.RoundTrip
import DriftGuardX.Json.Text
import DriftGuardX.Json.Truncation
import DriftGuardX.Json.Value
import DriftGuardX.Ledger.Certificate
import DriftGuardX.Ledger.Chain
import DriftGuardX.Ledger.Export
import DriftGuardX.Ledger.Store
import DriftGuardX.Ledger.TamperEvidence
import DriftGuardX.Ledger.Witness
import DriftGuardX.Memory.Access
import DriftGuardX.Memory.AuditBinding
import DriftGuardX.Memory.AuditChain
import DriftGuardX.Memory.Capabilities
import DriftGuardX.Memory.CapabilityChecks
import DriftGuardX.Memory.Effects
import DriftGuardX.Memory.Isolation
import DriftGuardX.Memory.Quarantine
import DriftGuardX.Memory.Revocation
import DriftGuardX.Memory.Store
import DriftGuardX.Merkle.Binding
import DriftGuardX.Merkle.Dag
import DriftGuardX.Merkle.Forks
import DriftGuardX.Merkle.Insertion
import DriftGuardX.Merkle.Invariant
import DriftGuardX.Merkle.Representation
import DriftGuardX.Merkle.TamperDetection
import DriftGuardX.Policy.ApprovalRuns
import DriftGuardX.Policy.Approvals
import DriftGuardX.Policy.Decisions
import DriftGuardX.Policy.Enforcement
import DriftGuardX.Policy.Engine
import DriftGuardX.Policy.Hierarchy
import DriftGuardX.Policy.Resolver
import DriftGuardX.Policy.Shadow
import DriftGuardX.Policy.Signatures
import DriftGuardX.Policy.TargetExperiments
import DriftGuardX.Policy.Tightening
import DriftGuardX.Policy.TransferGuard
import DriftGuardX.Policy.TransportConditions
import DriftGuardX.Policy.TransportGate
import DriftGuardX.Policy.TransportVerdicts
import DriftGuardX.Policy.TwoPerson
import DriftGuardX.Recovery.Actions
import DriftGuardX.Recovery.Canary
import DriftGuardX.Recovery.CanarySafety
import DriftGuardX.Recovery.Capsule
import DriftGuardX.Recovery.CapsuleObjects
import DriftGuardX.Recovery.CausalCut
import DriftGuardX.Recovery.Compatibility
import DriftGuardX.Recovery.Compensation
import DriftGuardX.Recovery.CutOptimality
import DriftGuardX.Recovery.Engine
import DriftGuardX.Recovery.Execution
import DriftGuardX.Recovery.Executor
import DriftGuardX.Recovery.FailurePaths
import DriftGuardX.Recovery.Gates
import DriftGuardX.Recovery.Idempotency
import DriftGuardX.Recovery.Integrity
import DriftGuardX.Recovery.Partitions
import DriftGuardX.Recovery.Path
import DriftGuardX.Recovery.Reaching
import DriftGuardX.Recovery.Settlement
import DriftGuardX.Recovery.StateMachine
import DriftGuardX.Replay.ArmSelection
import DriftGuardX.Replay.BeliefModel
import DriftGuardX.Replay.BeliefUpdate
import DriftGuardX.Replay.CrashedGenerator
import DriftGuardX.Replay.Deadlock
import DriftGuardX.Replay.Engine
import DriftGuardX.Replay.ExogenousController
import DriftGuardX.Replay.ExperimentPlanner
import DriftGuardX.Replay.ExperimentSelection
import DriftGuardX.Replay.Manifest
import DriftGuardX.Replay.ParetoSelection
import DriftGuardX.Replay.PinnedReplay
import DriftGuardX.Replay.Planner
import DriftGuardX.Replay.Reachability
import DriftGuardX.Replay.Scheduler
import DriftGuardX.Replay.TimeAuthority
import DriftGuardX.Sandbox.Component
import DriftGuardX.Sandbox.Container
import DriftGuardX.Sandbox.Escrow
import DriftGuardX.Sandbox.Hook
import DriftGuardX.Sandbox.Worker
import DriftGuardX.Sdk.Attempts
import DriftGuardX.Sdk.BatchReport
import DriftGuardX.Sdk.Client
import DriftGuardX.Trace.Artifact
import DriftGuardX.Trace.Redaction
import DriftGuardX.Trace.SpanChain
import DriftGuardX.Utils.Unicode
import DriftGuardX.Validation.Coherence
import DriftGuardX.Validation.Divergence
import DriftGuardX.Validation.Eligibility
import DriftGuardX.Validation.Envelope
import DriftGuardX.Validation.Models
import DriftGuardX.Validation.Targets
import DriftGuardX.Validation.Tolerance
import DriftGuardX.Validation.Validator
import DriftGuardX.Worker.DivergenceFlag
import DriftGuardX.Worker.RecoveryJob
import DriftGuardX.Worker.ReplayJob
