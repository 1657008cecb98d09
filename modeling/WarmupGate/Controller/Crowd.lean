import WarmupGate.Controller.Episode

/-!
# Reconciliations side by side

Any number of reconciliations are under way at once, and each of them carries out one act after the
other, in any order among them. While a pod counts as pending, its reconciliation holds a guard with
the labels under which it counts; a reconciliation that is given up, which can happen wherever it
waits, lets go of the guard, and that takes the pod off the count. The loop of a run that is given
up may still report latencies. Samples are told to one ledger.
-/
namespace WarmupGate.Controller

/-- The act follows on the one before it, and nothing can happen to the reconciliation between them.
-/
def Act.prompt : Act → Bool
  | .execute _ => true
  | .measure (.runRequests _ _) => true
  | .measure (.pendingDown _ _) => true
  | _ => false

/-- The act reports the latency of a request. -/
def Act.reportsLatency : Act → Bool
  | .measure (.requestLatency _ _) => true
  | _ => false

structure Visit where
  pod : Pod
  /-- The namespace and the node under which the pod counts as pending. -/
  guard : Option (String × String) := none
  /-- The plan that the executor is at work on. -/
  running : Option Warmup.Plan := none
  ahead : List Act

namespace Visit

/-- What an act makes of a reconciliation, with what is then ahead of it. -/
def after (v : Visit) (rest : List Act) : Act → Visit
  | .measure (.pendingUp ns node) => { v with guard := some (ns, node), ahead := rest }
  | .measure (.pendingDown _ _) => { v with guard := none, ahead := rest }
  | .measure (.runResult _ _ _) => { v with running := none, ahead := rest }
  | .execute plan => { v with running := some plan, ahead := rest }
  | _ => { v with ahead := rest }

/-- Nothing that has to follow at once is ahead. -/
def Waits (v : Visit) : Prop := ∀ a ∈ v.ahead.head?, a.prompt = false

/-- A reconciliation that is given up: only latencies can still be reported, by a loop that goes on
for a while. -/
def abandoned (v : Visit) (strays : List Act) : Visit := { pod := v.pod, ahead := strays }

def release (v : Visit) : List Telemetry.Sample :=
  (v.guard.map fun labels => Telemetry.Sample.pendingDown labels.1 labels.2).toList

/-- The executor is at work for a pod of this namespace on this node. -/
def runs (v : Visit) (ns node : String) : Bool :=
  v.running.any fun plan => decide (plan.ns = ns ∧ v.pod.node = node)

/-- The pod counts as pending while the executor is about to begin, or is just done. -/
def turns (v : Visit) (ns node : String) : Bool :=
  v.running.isNone && decide (v.guard = some (ns, node))

end Visit

/-- Reconciliations under way, and the samples told so far, newest first. -/
structure Crowd where
  visits : List Visit := []
  told : List Telemetry.Sample := []

namespace Crowd

/-- The run of an episode, if there is one, reports latencies and nothing else. -/
def Admits (e : Episode) : Prop :=
  ∀ plan, e.plan? = some plan → ∀ s ∈ (e.trial plan).samples, (Act.measure s).reportsLatency = true

inductive Step : Crowd → Crowd → Prop
  | join {visits : List Visit} {told : List Telemetry.Sample} (e : Episode) : Admits e →
      Step ⟨visits, told⟩ ⟨visits ++ [{ pod := e.pod, ahead := e.outcome.acts }], told⟩
  | act {before others : List Visit} {v : Visit} {told : List Telemetry.Sample} {a : Act}
      {rest : List Act} : v.ahead = a :: rest →
      Step ⟨before ++ v :: others, told⟩
        ⟨before ++ v.after rest a :: others, a.sample?.toList ++ told⟩
  | giveUp {before others : List Visit} {v : Visit} {told : List Telemetry.Sample}
      {strays : List Act} : v.Waits → (∀ a ∈ strays, a.reportsLatency = true) →
      Step ⟨before ++ v :: others, told⟩
        ⟨before ++ v.abandoned strays :: others, v.release ++ told⟩

/-- What any number of reconciliations can come to. -/
inductive Reachable : Crowd → Prop
  | start : Reachable {}
  | step {c d : Crowd} : Reachable c → Step c d → Reachable d

end Crowd
end WarmupGate.Controller
