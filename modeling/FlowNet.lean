import FlowNet.Net.Document
import FlowNet.Net.Reachability
import FlowNet.Toml.Reader
import FlowNet.Gate.Session
import FlowNet.Store.Memory
import FlowNet.Store.Documents
import FlowNet.Decision
import FlowNet.Net.File
import FlowNet.Config
import FlowNet.Scheduler.Tick
import FlowNet.Main
import FlowNet.Proofs.Gate.Acceptance
import FlowNet.Proofs.Gate.Refusal
import FlowNet.Proofs.Gate.Turns
import FlowNet.Proofs.Gate.Deferral
import FlowNet.Proofs.Gate.Consent
import FlowNet.Proofs.Gate.Budget
import FlowNet.Proofs.Net.Exactness
import FlowNet.Proofs.Net.Limit
import FlowNet.Proofs.Scheduler.Replay
import FlowNet.Proofs.Scheduler.Journal
import FlowNet.Proofs.Scheduler.Endings
import FlowNet.Proofs.Net.Shape
import FlowNet.Proofs.Net.Candidacy
import FlowNet.Proofs.Scheduler.Soundness
import FlowNet.Proofs.Scheduler.Timeouts
import FlowNet.Proofs.Scheduler.Wakeups
import FlowNet.Proofs.Scheduler.Failures
import FlowNet.Proofs.Scheduler.Accounting
import FlowNet.Proofs.Scheduler.Evaluation
import FlowNet.Proofs.Scheduler.Prediction
import FlowNet.Proofs.Scheduler.Moves
import FlowNet.Proofs.Scheduler.Reports
import FlowNet.Proofs.Scheduler.Queues
import FlowNet.Proofs.Scheduler.Solo
import FlowNet.Proofs.Store.Damage
import FlowNet.Proofs.Scheduler.Errands
import FlowNet.Proofs.Scheduler.Isolation
import FlowNet.Proofs.Scheduler.Rest
import FlowNet.Proofs.Gate.Room
import FlowNet.Proofs.Scheduler.Room
import FlowNet.Proofs.Json.Numerals
import FlowNet.Proofs.Json.Texts
import FlowNet.Proofs.Instant.Calendar
import FlowNet.Proofs.Instant.Rfc3339
import FlowNet.Proofs.Datum.Decoding
import FlowNet.Proofs.Store.Records
import FlowNet.Proofs.Store.Paths
import FlowNet.Proofs.Store.Mirror
import FlowNet.Proofs.Store.Operations
import FlowNet.Proofs.Store.Refinement
import FlowNet.Proofs.Scheduler.Quiescence
import FlowNet.Proofs.Scheduler.Conservation
import FlowNet.Proofs.Scheduler.Steps
import FlowNet.Proofs.Gate.Pending
import FlowNet.Proofs.Guard.Parsing
import FlowNet.Proofs.Net.StateEquation
import FlowNet.Proofs.Net.Canonical
import FlowNet.Proofs.Gate.Rest
import FlowNet.Proofs.Guard.Spelling
import FlowNet.Proofs.Guard.Limits
import FlowNet.Proofs.Guard.Composition
import FlowNet.Proofs.Guard.Mentions
import FlowNet.Proofs.Net.Books
import FlowNet.Proofs.Json.Excerpts
import FlowNet.Proofs.Decision.Replies
import FlowNet.Proofs.Scheduler.Grips
import FlowNet.Proofs.Guard.Offsets
import FlowNet.Proofs.Guard.Bounds
