import WarmupGate.Pod

/-!
# Pods as they are sent

Any part of a pod may be left out on the way. What would have stood in a part that is missing is
missing as well, and a list that is missing is read as an empty one.
-/
namespace WarmupGate

namespace Manifest

structure Spec where
  node : Option String := none
  containers : List Container := []
  gates : Option (List String) := none
  deriving DecidableEq, Repr

structure Status where
  phase : Option String := none
  address : Option String := none
  containers : Option (List ContainerStatus) := none
  conditions : Option (List Condition) := none
  deriving DecidableEq, Repr

def Spec.whole (s : Spec) : PodSpec :=
  { node := s.node, containers := s.containers, gates := s.gates.getD [] }

def Status.whole (s : Status) : PodStatus :=
  { phase := s.phase
    address := s.address
    containers := s.containers.getD []
    conditions := s.conditions.getD [] }

end Manifest

structure Manifest where
  metadata : Metadata := {}
  spec : Option Manifest.Spec := none
  status : Option Manifest.Status := none
  deriving DecidableEq, Repr

def Manifest.pod (m : Manifest) : Pod :=
  { metadata := m.metadata
    spec := (m.spec.map Spec.whole).getD {}
    status := (m.status.map Status.whole).getD {} }

end WarmupGate
