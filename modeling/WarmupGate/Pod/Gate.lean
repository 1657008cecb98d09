import WarmupGate.Pod

/-!
# Where a pod stands at the gate

A pod is warmed up when it declares the gate, has not been let through yet, runs, and has all its
containers ready in its own status and in the cluster's condition. The first of these that fails
names the state.
-/
namespace WarmupGate

inductive GateState where
  | notGated
  | alreadyReady
  | notRunning (phase : String)
  | containersNotReady
  | containersReadyPending
  | ready
  deriving DecidableEq, Repr

/-- The states that a later look may find changed without any event. -/
def GateState.requeues : GateState → Bool
  | .notRunning _ => true
  | .containersNotReady => true
  | .containersReadyPending => true
  | _ => false

namespace Pod

def hasGate (pod : Pod) : Bool := pod.spec.gates.any (· == Key.gate)

def conditionHolds (type : String) (pod : Pod) : Bool :=
  Condition.holds type pod.status.conditions

def phase (pod : Pod) : String := pod.status.phase.getD ""

/-- All container statuses are ready, and there is at least one. -/
def containersReady (pod : Pod) : Bool :=
  !pod.status.containers.isEmpty && pod.status.containers.all ContainerStatus.ready

def gateState (pod : Pod) : GateState :=
  if !pod.hasGate then .notGated
  else if pod.conditionHolds Key.warmupReady then .alreadyReady
  else if pod.phase ≠ Key.running then .notRunning pod.phase
  else if !pod.containersReady then .containersNotReady
  else if !pod.conditionHolds Key.containersReady then .containersReadyPending
  else .ready

end Pod
end WarmupGate
