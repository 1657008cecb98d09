import WarmupGate.Cluster.StoredPod
import WarmupGate.Controller.Reconcile

/-!
# Races for a pod

The controller and others change a pod at the same time. A look at the pod works on what was read at
any earlier moment, and its write arrives when it will; in between the pod may change in any way
that is allowed to others. What the controller hears about its write may be lost.
-/
namespace WarmupGate.Controller
open Cluster

structure Race where
  current : StoredPod
  /-- What the pod was before, newest first. -/
  past : List StoredPod := []
  /-- The writes of the controller that took effect: the pod before and after, newest first. -/
  accepted : List (StoredPod × StoredPod) := []

namespace Race

def history (r : Race) : List StoredPod := r.current :: r.past

def edit (r : Race) (next : StoredPod) : Race := { r with current := next, past := r.history }

/-- A write of the controller takes effect. -/
def accept (r : Race) (after : StoredPod) : Race :=
  { current := after, past := r.history, accepted := (r.current, after) :: r.accepted }

/-- Conditions are written to the pod on the strength of an earlier reading. -/
def write (r : Race) (gap : Nat) (pod : Pod) (conditions : List Condition) : Race :=
  match r.current.write gap pod conditions with
  | (.ok (), after) => r.accept after
  | (.error _, _) => r

/-- One act of a look at a pod reaches the cluster. -/
def carryOut (gap : Nat) (pod : Pod) (r : Race) : Act → Race
  | .write conditions => r.write gap pod conditions
  | _ => r

def look (r : Race) (gap : Nat) (pod : Pod) (c : Circumstances) : Race :=
  (reconcile c pod).acts.foldl (carryOut gap pod) r

/-- The controller hears what became of its write, or that it failed. -/
def Heard (r : Race) (gap : Nat) (pod : Pod) (c : Circumstances) : Prop :=
  ∀ conditions ∈ (reconcile c pod).writes,
    c.answer = (r.current.write gap pod conditions).1 ∨ ∃ fault, c.answer = .error fault

/-- One step of the race. -/
inductive Step (allowed : Pod → Pod → Prop) : Race → Race → Prop
  | edit {r : Race} (next : StoredPod) : r.current.version < next.version →
      allowed r.current.pod next.pod → Step allowed r (r.edit next)
  | look {r : Race} {snapshot : StoredPod} (gap : Nat) (c : Circumstances) :
      snapshot ∈ r.history → r.Heard gap snapshot.read c →
      Step allowed r (r.look gap snapshot.read c)

/-- A state that a race can come to when the others change the pod as they are allowed to. -/
inductive Reachable (allowed : Pod → Pod → Prop) (start : StoredPod) : Race → Prop
  | start : Reachable allowed start { current := start }
  | step {r q : Race} : Reachable allowed start r → Step allowed r q → Reachable allowed start q

end Race
end WarmupGate.Controller
