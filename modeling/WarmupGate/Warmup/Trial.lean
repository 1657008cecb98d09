import WarmupGate.Log.Event
import WarmupGate.Telemetry.Ledger
import WarmupGate.Warmup.Timeline

/-!
# Trials

A trial runs a plan against a target within limits and says everything that can be seen of it: the
report, the requests that the target received, the samples and the events. A plan without an address
is refused, and so is one whose limits are over before it starts; neither sends a request.
-/
namespace WarmupGate.Warmup

/-- What bounds a run, counted from its start. -/
structure Limits where
  deadline : Option Span := none
  /-- The millisecond at which it is cancelled; zero if it was cancelled before. -/
  cancelAt : Option Nat := none
  deriving DecidableEq, Repr

namespace Limits

/-- When and why a run that goes on forever would end. Cancellation counts before the deadline. -/
def ending (l : Limits) : Option (Nat × Cause) :=
  match l.cancelAt, l.deadline.map Span.ceilMillis with
  | some c, some d => if c ≤ d then some (c, .canceled) else some (d, .deadline)
  | some c, none => some (c, .canceled)
  | none, some d => some (d, .deadline)
  | none, none => none

def overAtStart (l : Limits) : Option Cause :=
  match l.ending with
  | some (0, cause) => some cause
  | _ => none

end Limits

structure Trial where
  report : Report
  /-- What the target received, in order of arrival. -/
  arrivals : List Arrival := []
  samples : List Telemetry.Sample := []
  events : List Log.Event := []
  /-- How many milliseconds it took. -/
  lasted : Nat := 0

namespace Trial

def addressMissingMessage : String := "cannot execute warmup: pod IP not set"
def cancelledMessage : String := "warmup cancelled"

/-- What becomes of a run whose next instant cannot be represented. -/
def overflowDetail : String :=
  "task # panicked with message \"overflow when adding duration to instant\""

def event (level : Log.Level) (message : String) (fields : List (String × Log.Value)) : Log.Event :=
  { level, target := Log.Event.engineTarget, message, fields }

def startingEvent (p : Plan) (url : String) : Log.Event :=
  event .debug "starting warmup"
    [("pod", .shown p.podName), ("namespace", .shown p.ns), ("endpoint", .shown url),
      ("request_count", .number p.requests), ("duration", .shown p.window.text)]

def cancelledEvent (p : Plan) (cause : Cause) : Log.Event :=
  event .debug cancelledMessage [("pod", .shown p.podName), ("reason", .shown cause.message)]

def overflowEvent (p : Plan) : Log.Event :=
  event .warn "warmup dispatch task failed"
    [("pod", .shown p.podName), ("error", .shown overflowDetail)]

def completedEvent (p : Plan) (tally : Tally) (r : Report) : Log.Event :=
  event .debug "warmup completed"
    [("pod", .shown p.podName), ("namespace", .shown p.ns), ("success", .flag r.success),
      ("requests", .number tally.requests), ("success_rate", .real r.successRate),
      ("latency_p50", .shown r.p50.text), ("latency_p99", .shown r.p99.text),
      ("last_error", .text (tally.lastError.getD "")), ("duration", .shown r.elapsed.text)]

/-- The counts, latencies and length of a run. -/
def measured (tally : Tally) (elapsed : Span) : Report :=
  { completed := tally.successes
    failed := tally.failures
    elapsed
    p50 := tally.percentile Tally.median
    p99 := tally.percentile Tally.ninetyNinth }

/-- The report on a run that took its course. A run that ended early has no success. -/
def reportOf (tally : Tally) (elapsed : Span) : Finish → Report
  | .overflowed =>
    let r : Report := { elapsed, error := some (.task overflowDetail) }
    { r with message := r.summary }
  | .stopped cause =>
    { measured tally elapsed with error := some (.cancelled cause), message := cancelledMessage }
  | .complete =>
    let r := { measured tally elapsed with success := decide (0 < tally.successes) }
    { r with message := r.summary }

def closingEvent (p : Plan) (tally : Tally) (r : Report) : Finish → Log.Event
  | .overflowed => overflowEvent p
  | .stopped cause => cancelledEvent p cause
  | .complete => completedEvent p tally r

def refused (e : RunError) (message : String) : Trial := { report := .failure e message }

/-- What a run at an address is up against. -/
def course (p : Plan) (address : String) (limits : Limits) (target : Target) : Course :=
  { plan := p
    endpoint := (Net.Url.read? (p.url address).toList).map Net.Url.withoutCredentials
    target
    ending := limits.ending }

def runAt (p : Plan) (address : String) (limits : Limits) (target : Target) : Trial :=
  let (timeline, finish) := (Timeline.start p.requests).run (course p address limits target)
  let tally := timeline.burst.tally
  let report := reportOf tally (.ofMillis timeline.now) finish
  { report
    arrivals := timeline.arrivals.reverse
    samples := timeline.burst.samples.reverse.map (Telemetry.Sample.requestLatency p.ns)
    events := [startingEvent p (p.url address), closingEvent p tally report finish]
    lasted := timeline.now }

/-- Runs a plan. An empty address is the same as none. -/
def run (p : Plan) (limits : Limits) (target : Target) : Trial :=
  match p.address.filter (· ≠ "") with
  | none => refused .addressMissing addressMissingMessage
  | some address =>
    match limits.overAtStart with
    | some cause => refused (.cancelled cause) cancelledMessage
    | none => runAt p address limits target

end Trial
end WarmupGate.Warmup
