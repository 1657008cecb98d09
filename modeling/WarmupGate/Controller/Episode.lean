import WarmupGate.Controller.Reconcile

/-!
# Episodes

A look at a pod together with what the world brings during it. The run of a plan may be seen to do
anything here, and shutdown may have begun by its end or not; all the rest is up to the controller.
A look whose run keeps to the clock is one of these episodes.
-/
namespace WarmupGate.Controller

/-- The plan that a look at a pod runs, if it runs one. -/
def Circumstances.plan? (c : Circumstances) (pod : Pod) : Option Warmup.Plan :=
  match pod.gateState, Warmup.Plan.resolve pod with
  | .ready, .ok plan => if c.executor.skips then none else some plan
  | _, _ => none

structure Episode where
  circumstances : Circumstances
  pod : Pod
  /-- What is seen of the run of a plan. -/
  trial : Warmup.Plan → Warmup.Trial
  /-- Shutdown has begun by the end of the run. -/
  raised : Bool

namespace Episode

def plan? (e : Episode) : Option Warmup.Plan := e.circumstances.plan? e.pod

/-- What the controller does in an episode. -/
def outcome (e : Episode) : Reconciliation :=
  match e.plan? with
  | some plan =>
    (Attempt.ofTrial e.pod plan (e.trial plan)).reconciled e.circumstances e.pod e.raised
  | none => reconcile e.circumstances e.pod

def ofLook (c : Circumstances) (pod : Pod) : Episode :=
  { circumstances := c
    pod
    trial := c.trial
    raised := (attempt c pod).sawShutdown c }

end Episode
end WarmupGate.Controller
