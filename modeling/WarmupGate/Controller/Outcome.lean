import WarmupGate.Pod
import WarmupGate.Warmup.Executor
import WarmupGate.Warmup.Plan.Resolve

/-!
# Outcomes of warmup attempts

Whatever an attempt comes to, the pod is let through; the outcome decides only the reason and the
message of the condition, and the notice that goes with it. A pod without a valid plan, and one
whose run was no success, are let through with a reason that says so.
-/
namespace WarmupGate.Controller

inductive Reason where
  | complete
  | failedOpen
  deriving DecidableEq, Repr

namespace Reason

def text : Reason → String
  | .complete => "WarmupComplete"
  | .failedOpen => "WarmupFailedOpen"

/-- The reason of the notice. -/
def noticeText : Reason → String
  | .complete => "WarmupCompleted"
  | .failedOpen => "WarmupFailedOpen"

def condition (r : Reason) (message : String) (now : Timestamp) : Condition :=
  { type := Pod.Key.warmupReady
    status := Condition.trueStatus
    reason := some r.text
    message := some message
    lastTransition := some now }

end Reason

/-- What the controller tells the world about a pod. -/
structure Notice where
  /-- Something went wrong. -/
  warning : Bool
  reason : String
  note : String
  deriving DecidableEq, Repr

inductive Outcome where
  | unplanned (fault : Warmup.Plan.Fault)
  | executed (report : Warmup.Report)
  | skipped
  deriving DecidableEq, Repr

namespace Outcome

def failOpenPreface : String := "Warmup failed but pod marked ready (fail-open): "
def planFaultPreface : String := "warmup config error: "

def reason : Outcome → Reason
  | .unplanned _ => .failedOpen
  | .executed report => if report.success then .complete else .failedOpen
  | .skipped => .complete

def message : Outcome → String
  | .unplanned fault => planFaultPreface ++ fault.message
  | .executed report =>
    if report.success then report.message else failOpenPreface ++ report.message
  | .skipped => Warmup.Executor.skippedMessage

def failedOpen (o : Outcome) : Bool := o.reason == .failedOpen

def report? : Outcome → Option Warmup.Report
  | .executed report => some report
  | _ => none

/-- The run was cancelled from outside; its deadline does not count. -/
def cancelled (o : Outcome) : Bool := o.report?.any (·.error == some (.cancelled .canceled))

def condition (o : Outcome) (now : Timestamp) : Condition := o.reason.condition o.message now

def notice (o : Outcome) : Notice :=
  { warning := o.failedOpen, reason := o.reason.noticeText, note := o.message }

end Outcome
end WarmupGate.Controller
