import WarmupGate.Controller.Reconcile

/-!
# The life of a pod

Looks at a pod alternate with changes of the pod by others. A look works on the pod as it is at that
moment. When its write was accepted, the written list has taken the place of the pod's conditions;
otherwise the look leaves the pod alone. All looks are kept.
-/
namespace WarmupGate.Controller

/-- A look at a pod and what it depends on. -/
structure Look where
  circumstances : Circumstances
  pod : Pod

namespace Look

def outcome (k : Look) : Reconciliation := reconcile k.circumstances k.pod

/-- Something was written, and the write was accepted. -/
def Recorded (k : Look) : Prop := k.outcome.writes ≠ [] ∧ k.circumstances.answer = .ok ()

def replace (pod : Pod) (conditions : List Condition) : Pod :=
  { pod with status := { pod.status with conditions } }

def after (k : Look) : Pod :=
  match k.circumstances.answer with
  | .ok () => k.outcome.writes.foldl replace k.pod
  | .error _ => k.pod

end Look

structure Lifetime where
  pod : Pod
  /-- The looks so far, newest first. -/
  looks : List Look := []

namespace Lifetime

def look (l : Lifetime) (c : Circumstances) : Lifetime :=
  { pod := Look.after ⟨c, l.pod⟩, looks := ⟨c, l.pod⟩ :: l.looks }

def edit (l : Lifetime) (next : Pod) : Lifetime := { l with pod := next }

/-- What the first entry of the gate's type says. -/
def verdict? (pod : Pod) : Option String :=
  (Condition.find? Pod.Key.warmupReady pod.status.conditions).map Condition.status

/-- One step of a life. Others may change all of the pod but what the first entry of the gate's type
says. -/
inductive Step : Lifetime → Lifetime → Prop
  | look {l : Lifetime} (c : Circumstances) : Step l (l.look c)
  | edit {l : Lifetime} (next : Pod) : verdict? next = verdict? l.pod → Step l (l.edit next)

/-- A state that the life of a pod can come to. -/
inductive Reachable (start : Pod) : Lifetime → Prop
  | start : Reachable start { pod := start }
  | step {l k : Lifetime} : Reachable start l → Step l k → Reachable start k

end Lifetime
end WarmupGate.Controller
