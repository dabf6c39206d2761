import WorkspacePool.Codec
import WorkspacePool.Docker.Session
import WorkspacePool.Main
import WorkspacePool.Simulation.Cluster
import WorkspacePool.Simulation.Schedule
import WorkspacePool.Workflow.Delivery
import WorkspacePool.Proofs.Pool.Rows
import WorkspacePool.Proofs.Pool.Soundness
import WorkspacePool.Proofs.Pool.Effect
import WorkspacePool.Proofs.Pool.History
import WorkspacePool.Proofs.Pool.Booking
import WorkspacePool.Proofs.Pool.Queue
import WorkspacePool.Proofs.Workflow.Orders
import WorkspacePool.Proofs.Pool.Settled
import WorkspacePool.Proofs.Workflow.Agreement
import WorkspacePool.Proofs.Workflow.Steadiness
import WorkspacePool.Proofs.Workflow.Scripted
import WorkspacePool.Proofs.Pool.Presence
import WorkspacePool.Proofs.Workflow.Reports
import WorkspacePool.Proofs.Workflow.Truthfulness
import WorkspacePool.Proofs.Workflow.Company
import WorkspacePool.Proofs.Workflow.Settlement
import WorkspacePool.Proofs.Workflow.Reclaiming
import WorkspacePool.Proofs.Workflow.Phases
import WorkspacePool.Proofs.Workflow.Floor
import WorkspacePool.Proofs.Pool.Moving
import WorkspacePool.Proofs.Pool.Frame
import WorkspacePool.Proofs.Workflow.Lineage
import WorkspacePool.Proofs.Workflow.Custody
import WorkspacePool.Proofs.Workflow.Founding
import WorkspacePool.Proofs.Workflow.Freeing
import WorkspacePool.Proofs.Workflow.Running
import WorkspacePool.Proofs.Workflow.Pausing
import WorkspacePool.Proofs.Workflow.Tracing
import WorkspacePool.Proofs.Workflow.Exclusion
import WorkspacePool.Proofs.Workflow.Undoing
import WorkspacePool.Proofs.Workflow.Redelivery
import WorkspacePool.Proofs.Pool.Rewriting
import WorkspacePool.Proofs.Workflow.Idling
import WorkspacePool.Proofs.Workflow.Chronicle
import WorkspacePool.Proofs.Workflow.Duties
import WorkspacePool.Proofs.Workflow.Confirmation
import WorkspacePool.Proofs.Workflow.GivingUp
import WorkspacePool.Proofs.Workflow.Isolation
import WorkspacePool.Proofs.Workflow.Sweeping
import WorkspacePool.Proofs.Pool.Tokens
import WorkspacePool.Proofs.Workflow.Noise
import WorkspacePool.Proofs.Text.Utf8
import WorkspacePool.Proofs.Text.Numerals
import WorkspacePool.Proofs.Token.Lookups
import WorkspacePool.Proofs.Kubernetes.Tenancy
import WorkspacePool.Proofs.Kubernetes.Replacing
import WorkspacePool.Proofs.Calendar.Timestamps
import WorkspacePool.Proofs.Json.Tokens
import WorkspacePool.Proofs.Json.Strings
import WorkspacePool.Proofs.Json.Numbers
import WorkspacePool.Proofs.Json.Writing
import WorkspacePool.Proofs.Codec
import WorkspacePool.Proofs.Docker.Naming
import WorkspacePool.Proofs.Pool.Serving
import WorkspacePool.Proofs.Pool.Idleness
import WorkspacePool.Proofs.Workflow.Placing
import WorkspacePool.Proofs.Workflow.Draining
import WorkspacePool.Proofs.Workflow.Retiring
import WorkspacePool.Proofs.Settings.IdleTimeout
import WorkspacePool.Proofs.Workflow.Routes
import WorkspacePool.Proofs.Pool.Refusal
import WorkspacePool.Proofs.Kubernetes.Waiting
import WorkspacePool.Proofs.Workflow.Proceedings
import WorkspacePool.Proofs.Json.Grammar
import WorkspacePool.Proofs.Json.Texts
import WorkspacePool.Proofs.Json.Members
import WorkspacePool.Proofs.Decoding
import WorkspacePool.Proofs.Settings.Reading
import WorkspacePool.Proofs.Settings.Acceptance
import WorkspacePool.Proofs.Settings.Timers
import WorkspacePool.Proofs.Kubernetes.Completing
import WorkspacePool.Proofs.Workflow.Cancelling
import WorkspacePool.Proofs.Docker.Options
