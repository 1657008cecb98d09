import WarmupGate.Warmup.Trial

/-!
# Executions

A trial without its clock: the loop of the burst, the supervisor that waits for it and the scope
around both take their steps in whatever order the world brings them. The scope can be cancelled and
can expire at any moment, and neither is taken back. The supervisor looks at the loop first and at
the scope next, again and again, and the loop goes on meanwhile. It ends with the loop; if it finds
the loop at work and then the scope over, it tells the loop to stop and waits for that. The loop
looks for this word at the beginning of a turn, so a turn that it has begun is still taken.
-/
namespace WarmupGate.Warmup

structure Watch where
  cancelled : Bool := false
  expired : Bool := false
  deriving DecidableEq, Repr

namespace Watch

/-- Why the scope is over. Cancellation counts before the deadline. -/
def err (w : Watch) : Option Cause :=
  if w.cancelled then some .canceled else if w.expired then some .deadline else none

/-- What a wait for the end of the scope may give; when both causes have come, it may be either. -/
def MayEnd (w : Watch) : Cause → Prop
  | .canceled => w.cancelled = true
  | .deadline => w.expired = true

end Watch

/-- A burst and the supervisor that waits for it. -/
structure Supervision (α : Type) where
  burst : Burst α
  /-- The loop has begun a turn, and there was no word to stop before it. -/
  inTurn : Bool := false
  /-- The supervisor has found the loop at work and looks at the scope next. -/
  found : Bool := false
  /-- Why the supervisor has told the loop to stop. -/
  told : Option Cause := none
  /-- The loop has broken down. -/
  broken : Bool := false

namespace Supervision

variable {α : Type}

def start (quota : Nat) : Supervision α := { burst := Burst.start quota }

/-- How the supervisor sees the burst end. -/
def finish (s : Supervision α) : Finish :=
  if s.broken then .overflowed
  else
    match s.told with
    | none => .complete
    | some cause => .stopped cause

/-- One step of the loop or of the supervisor. -/
inductive Step (w : Watch) : Supervision α → Supervision α → Prop
  /-- The loop begins a turn. -/
  | look {s : Supervision α} : s.burst.running = true → s.inTurn = false → s.told = none →
      Step w s { s with inTurn := true }
  /-- The loop begins a turn and finds the word to stop. -/
  | halt {s : Supervision α} {cause : Cause} : s.burst.running = true → s.inTurn = false →
      s.told = some cause → Step w s { s with burst := s.burst.stop }
  | turn {s : Supervision α} {b : Burst α} : s.inTurn = true → Burst.Step s.burst b →
      b.stopped = false → Step w s { s with burst := b, inTurn := false }
  /-- Nothing has come up in this turn, and the next one begins with a new look. -/
  | wait {s : Supervision α} : s.inTurn = true → Step w s { s with inTurn := false }
  | breakDown {s : Supervision α} : s.burst.running = true →
      Step w s { s with burst := s.burst.stop, broken := true }
  /-- The supervisor finds the loop at work. -/
  | find {s : Supervision α} : s.burst.running = true → s.told = none →
      Step w s { s with found := true }
  /-- The supervisor does not see the scope over, and looks at the loop again. -/
  | pass {s : Supervision α} : s.found = true → Step w s { s with found := false }
  /-- The supervisor has found the loop at work, and sees the scope over. The loop may have ended in
  between. -/
  | tell {s : Supervision α} {cause : Cause} : s.found = true → s.told = none → w.MayEnd cause →
      Step w s { s with found := false, told := some cause }

end Supervision

inductive Stage (α : Type) where
  | entering
  | running (s : Supervision α)
  | ended (report : Report)

structure Execution (α : Type) where
  watch : Watch := {}
  stage : Stage α := .entering

namespace Execution

variable {α : Type}

/-- One step of the execution of a plan, or of the scope around it. -/
inductive Step (p : Plan) : Execution α → Execution α → Prop
  | cancel (w : Watch) (stage : Stage α) : Step p ⟨w, stage⟩ ⟨{ w with cancelled := true }, stage⟩
  | expire (w : Watch) (stage : Stage α) : Step p ⟨w, stage⟩ ⟨{ w with expired := true }, stage⟩
  | refuse (w : Watch) : p.address.filter (· ≠ "") = none →
      Step p ⟨w, .entering⟩
        ⟨w, .ended (Trial.refused .addressMissing Trial.addressMissingMessage).report⟩
  | overAtStart {w : Watch} {address : String} {cause : Cause} :
      p.address.filter (· ≠ "") = some address → w.err = some cause →
      Step p ⟨w, .entering⟩
        ⟨w, .ended (Trial.refused (.cancelled cause) Trial.cancelledMessage).report⟩
  | enter {w : Watch} {address : String} :
      p.address.filter (· ≠ "") = some address → w.err = none →
      Step p ⟨w, .entering⟩ ⟨w, .running (.start p.requests)⟩
  | work {w : Watch} {s t : Supervision α} : Supervision.Step w s t →
      Step p ⟨w, .running s⟩ ⟨w, .running t⟩
  /-- The loop is over, and the supervisor reports on it, whatever the time that it took. -/
  | leave {w : Watch} {s : Supervision α} (elapsed : Span) : s.burst.running = false →
      s.found = false →
      Step p ⟨w, .running s⟩ ⟨w, .ended (Trial.reportOf s.burst.tally elapsed s.finish)⟩

/-- A state that the execution of a plan can come to, with its scope open at first. -/
inductive Reachable (p : Plan) : Execution α → Prop
  | start : Reachable p {}
  | step {e f : Execution α} : Reachable p e → Step p e f → Reachable p f

end Execution

/-- What may be seen of the execution of a plan when it has come to its end. The loop breaks down
only where it cannot plan a dispatch. -/
inductive Trial.Arises (p : Plan) : Trial → Prop
  | addressMissing : p.address.filter (· ≠ "") = none →
      Arises p (refused .addressMissing addressMissingMessage)
  | overAtStart {address : String} (cause : Cause) : p.address.filter (· ≠ "") = some address →
      Arises p (refused (.cancelled cause) cancelledMessage)
  | ran {α : Type} {w : Watch} {s : Supervision α} {trial : Trial} (elapsed : Span) :
      Execution.Reachable p ⟨w, .running s⟩ → s.burst.running = false →
      (s.broken = true → ∃ k ≤ p.requests, instantLimit ≤ (p.offset k).nanos) →
      trial.report = reportOf s.burst.tally elapsed s.finish →
      trial.samples = s.burst.samples.reverse.map (Telemetry.Sample.requestLatency p.ns) →
      Arises p trial

end WarmupGate.Warmup
