import WarmupGate.Binary64
import WarmupGate.Span

/-!
# The metrics ledger

What warmup runs tell the outside about themselves comes in samples, which are booked on named
series. A series is told apart from others of its name by its labels; it counts, follows a level up
and down, or collects durations in seconds. Booking a sample touches the series that the sample
names and no other, and opens it if need be.
-/
namespace WarmupGate.Telemetry

inductive Sample where
  | requestLatency (ns : String) (latency : Span)
  | pendingUp (ns node : String)
  | pendingDown (ns node : String)
  | runResult (ns : String) (success : Bool) (elapsed : Span)
  | runRequests (ns : String) (count : Nat)
  deriving DecidableEq, Repr

inductive Amount where
  | counter (count : Nat)
  | gauge (level : Int)
  /-- Seconds in double precision, newest first. -/
  | histogram (seconds : List Rat)
  deriving DecidableEq, Repr

/-- Name and labels of a series. -/
structure SeriesKey where
  name : String
  labels : List (String × String)
  deriving DecidableEq, Repr

structure Ledger where
  series : List (SeriesKey × Amount) := []
  deriving DecidableEq, Repr

namespace Series

def runs : String := "kube_booster_warmup_total"
def requests : String := "kube_booster_warmup_requests_total"
def runSeconds : String := "kube_booster_warmup_duration_seconds"
def latencySeconds : String := "kube_booster_warmup_request_latency_seconds"
def pending : String := "kube_booster_pods_pending_warmup"

/-- The help text of a series, by its name. -/
def description? (name : String) : Option String :=
  if name = runs then some "Total warmup executions by namespace and result"
  else if name = requests then some "Total HTTP requests sent during warmup"
  else if name = runSeconds then some "Time from warmup start to completion"
  else if name = latencySeconds then some "Individual request latency during warmup"
  else if name = pending then some "Pods currently waiting for warmup"
  else none

end Series

/-- A span in seconds: whole seconds and the fraction are rounded apart, and so is their sum. -/
def seconds (d : Span) : Rat :=
  Binary64.nearest
    (Binary64.nearest ((d.nanos / 1000000000 : Nat) : Rat) +
      Binary64.nearest (((d.nanos % 1000000000 : Nat) : Rat) / 1000000000))

namespace Amount

def count (n : Nat) : Option Amount → Amount
  | some (.counter m) => .counter (m + n)
  | _ => .counter n

def move (n : Int) : Option Amount → Amount
  | some (.gauge m) => .gauge (m + n)
  | _ => .gauge n

def observe (x : Rat) : Option Amount → Amount
  | some (.histogram xs) => .histogram (x :: xs)
  | _ => .histogram [x]

end Amount

namespace Ledger

def empty : Ledger := {}

def get? (l : Ledger) (key : SeriesKey) : Option Amount := l.series.lookup key

def update (l : Ledger) (key : SeriesKey) (change : Option Amount → Amount) : Ledger :=
  if l.series.any (·.1 == key) then
    { l with series := l.series.map fun s => if s.1 = key then (s.1, change (some s.2)) else s }
  else { l with series := l.series ++ [(key, change none)] }

def book (l : Ledger) : Sample → Ledger
  | .requestLatency ns latency =>
    l.update ⟨Series.latencySeconds, [("namespace", ns)]⟩ (Amount.observe (seconds latency))
  | .pendingUp ns node =>
    l.update ⟨Series.pending, [("namespace", ns), ("node", node)]⟩ (Amount.move 1)
  | .pendingDown ns node =>
    l.update ⟨Series.pending, [("namespace", ns), ("node", node)]⟩ (Amount.move (-1))
  | .runResult ns success elapsed =>
    let result := if success then "success" else "failure"
    (l.update ⟨Series.runs, [("namespace", ns), ("result", result)]⟩ (Amount.count 1)).update
      ⟨Series.runSeconds, [("namespace", ns)]⟩ (Amount.observe (seconds elapsed))
  | .runRequests ns count =>
    l.update ⟨Series.requests, [("namespace", ns)]⟩ (Amount.count count)

def ofSamples (samples : List Sample) : Ledger := samples.foldl book empty

end Ledger

end WarmupGate.Telemetry
