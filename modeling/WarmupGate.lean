import WarmupGate.Binary64
import WarmupGate.Cluster.Exchange
import WarmupGate.Cluster.Fault
import WarmupGate.Cluster.Recorder
import WarmupGate.Cluster.StatusPatch
import WarmupGate.Cluster.StoredPod
import WarmupGate.Controller.Crowd
import WarmupGate.Controller.Episode
import WarmupGate.Controller.Lifetime
import WarmupGate.Controller.Loop
import WarmupGate.Controller.Outcome
import WarmupGate.Controller.Race
import WarmupGate.Controller.Reconcile
import WarmupGate.Json
import WarmupGate.Json.Grammar
import WarmupGate.Json.Printer
import WarmupGate.Json.Record
import WarmupGate.Json.Scan
import WarmupGate.Json.Skip
import WarmupGate.Log.Event
import WarmupGate.Log.Filter
import WarmupGate.Log.Level
import WarmupGate.Log.Line
import WarmupGate.Log.Setup
import WarmupGate.Main
import WarmupGate.Net.Address
import WarmupGate.Net.Authority
import WarmupGate.Net.Host
import WarmupGate.Net.HostName
import WarmupGate.Net.HostName.Folding
import WarmupGate.Net.HostName.Series
import WarmupGate.Net.HostName.Spelling
import WarmupGate.Net.Path
import WarmupGate.Net.Percent
import WarmupGate.Net.Url
import WarmupGate.Pod
import WarmupGate.Pod.Gate
import WarmupGate.Pod.Manifest
import WarmupGate.Proofs.Binary64
import WarmupGate.Proofs.Cluster.Recorder
import WarmupGate.Proofs.Cluster.StatusPatch
import WarmupGate.Proofs.Cluster.StoredPod
import WarmupGate.Proofs.Controller.Counters
import WarmupGate.Proofs.Controller.Crowd
import WarmupGate.Proofs.Controller.Deadline
import WarmupGate.Proofs.Controller.Episode
import WarmupGate.Proofs.Controller.Healthy
import WarmupGate.Proofs.Controller.Lifetime
import WarmupGate.Proofs.Controller.Race
import WarmupGate.Proofs.Controller.Recording
import WarmupGate.Proofs.Controller.Revisit
import WarmupGate.Proofs.Controller.Shutdown
import WarmupGate.Proofs.Controller.Wording
import WarmupGate.Proofs.Json.Record
import WarmupGate.Proofs.Json.Telling
import WarmupGate.Proofs.Net.Address
import WarmupGate.Proofs.Pod.Condition
import WarmupGate.Proofs.Pod.Gate
import WarmupGate.Proofs.Pod.Upsert
import WarmupGate.Proofs.Service.Sockets
import WarmupGate.Proofs.Settings.Document
import WarmupGate.Proofs.Span.Fraction
import WarmupGate.Proofs.Span.Grammar
import WarmupGate.Proofs.Span.Overflow
import WarmupGate.Proofs.Span.Text
import WarmupGate.Proofs.Telemetry.Ledger
import WarmupGate.Proofs.Text.Clip
import WarmupGate.Proofs.Text.Cut
import WarmupGate.Proofs.Text.Integer
import WarmupGate.Proofs.Warmup.Accounts
import WarmupGate.Proofs.Warmup.Arising
import WarmupGate.Proofs.Warmup.Cancellation
import WarmupGate.Proofs.Warmup.Consistency
import WarmupGate.Proofs.Warmup.Descent
import WarmupGate.Proofs.Warmup.Ending
import WarmupGate.Proofs.Warmup.Endpoint
import WarmupGate.Proofs.Warmup.Execution
import WarmupGate.Proofs.Warmup.Happenings
import WarmupGate.Proofs.Warmup.Healthy
import WarmupGate.Proofs.Warmup.Hits
import WarmupGate.Proofs.Warmup.Independence
import WarmupGate.Proofs.Warmup.Overrides
import WarmupGate.Proofs.Warmup.Pace
import WarmupGate.Proofs.Warmup.Percentile
import WarmupGate.Proofs.Warmup.Plan
import WarmupGate.Proofs.Warmup.Prompt
import WarmupGate.Proofs.Warmup.Schedule
import WarmupGate.Proofs.Warmup.Signal
import WarmupGate.Proofs.Warmup.Summary
import WarmupGate.Proofs.Warmup.Tally
import WarmupGate.Proofs.Warmup.Timeline
import WarmupGate.Proofs.Warmup.Wait
import WarmupGate.Service.CommandLine
import WarmupGate.Service.Launch
import WarmupGate.Service.Sockets
import WarmupGate.Service.Stamp
import WarmupGate.Service.Version
import WarmupGate.Settings
import WarmupGate.Settings.Check
import WarmupGate.Settings.Document
import WarmupGate.Settings.Edit
import WarmupGate.Span
import WarmupGate.Span.Grammar
import WarmupGate.Span.Reader
import WarmupGate.Telemetry.Ledger
import WarmupGate.Text.Canonical
import WarmupGate.Text.Clip
import WarmupGate.Text.CombiningClass
import WarmupGate.Text.Composite
import WarmupGate.Text.Direction
import WarmupGate.Text.Integer
import WarmupGate.Text.Joining
import WarmupGate.Text.Mark
import WarmupGate.Text.Numeral
import WarmupGate.Text.Punycode
import WarmupGate.Text.Quoted
import WarmupGate.Text.Ranges
import WarmupGate.Text.Unassigned
import WarmupGate.Warmup.Burst
import WarmupGate.Warmup.Execution
import WarmupGate.Warmup.Executor
import WarmupGate.Warmup.Happenings
import WarmupGate.Warmup.Pace
import WarmupGate.Warmup.Plan
import WarmupGate.Warmup.Plan.Resolve
import WarmupGate.Warmup.Report
import WarmupGate.Warmup.Scope
import WarmupGate.Warmup.Tally
import WarmupGate.Warmup.Target
import WarmupGate.Warmup.Timeline
import WarmupGate.Warmup.Trial
