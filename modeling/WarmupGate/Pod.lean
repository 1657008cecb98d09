/-!
# Pods

The part of a pod that the controller reads: who it is, what it asks for, where it runs and which
conditions it has. A part that the cluster left out is the same as an empty one.

A condition list may hold several entries of one type; the first one counts. `upsert` changes the
first entry of a type in place and leaves later ones alone; without such an entry it appends.
-/
namespace WarmupGate

/-- A moment as the cluster writes it; it is only carried along. -/
structure Timestamp where
  text : String
  deriving DecidableEq, Repr

structure Condition where
  type : String
  status : String
  reason : Option String := none
  message : Option String := none
  lastProbe : Option Timestamp := none
  lastTransition : Option Timestamp := none
  observedGeneration : Option Int := none
  deriving DecidableEq, Repr

/-- A container of a pod with the ports that it declares. -/
structure Container where
  name : String := ""
  ports : List Int := []
  deriving DecidableEq, Repr

structure ContainerStatus where
  name : String := ""
  ready : Bool := false
  deriving DecidableEq, Repr

structure Metadata where
  name : Option String := none
  ns : Option String := none
  uid : Option String := none
  generateName : Option String := none
  resourceVersion : Option String := none
  annotations : List (String × String) := []
  deriving DecidableEq, Repr

structure PodSpec where
  node : Option String := none
  containers : List Container := []
  /-- The condition types that the pod's readiness waits for. -/
  gates : List String := []
  deriving DecidableEq, Repr

structure PodStatus where
  phase : Option String := none
  address : Option String := none
  containers : List ContainerStatus := []
  conditions : List Condition := []
  deriving DecidableEq, Repr

structure Pod where
  metadata : Metadata := {}
  spec : PodSpec := {}
  status : PodStatus := {}
  deriving DecidableEq, Repr

namespace Condition

def find? (type : String) (conditions : List Condition) : Option Condition :=
  conditions.find? (fun c => c.type == type)

def trueStatus : String := "True"

def isTrue (c : Condition) : Bool := c.status == trueStatus

/-- The first entry of a type exists and has the status "True", spelled exactly so. -/
def holds (type : String) (conditions : List Condition) : Bool := (find? type conditions).any isTrue

/-- Takes over what a writer decides; the probe time and the generation stay. -/
def takeOver (old new : Condition) : Condition :=
  { old with
    status := new.status
    reason := new.reason
    message := new.message
    lastTransition := new.lastTransition }

def upsert : List Condition → Condition → List Condition
  | [], c => [c]
  | old :: rest, c => if old.type = c.type then takeOver old c :: rest else old :: upsert rest c

end Condition

namespace Pod

/-- The pod's name, or the stem of the name that it will get. -/
def name (pod : Pod) : String :=
  (pod.metadata.name <|> pod.metadata.generateName).getD ""

def ns (pod : Pod) : String := pod.metadata.ns.getD ""

def node (pod : Pod) : String := pod.spec.node.getD ""

def annotation? (key : String) (pod : Pod) : Option String := pod.metadata.annotations.lookup key

namespace Key

def enabled : String := "kube-booster.io/warmup"
def enabledValue : String := "enabled"
def endpoint : String := "kube-booster.io/warmup-endpoint"
def requests : String := "kube-booster.io/warmup-requests"
def duration : String := "kube-booster.io/warmup-duration"
def port : String := "kube-booster.io/warmup-port"

/-- The readiness gate that a pod declares to be held back. -/
def gate : String := "kube-booster.io/warmup-ready"

def warmupReady : String := "kube-booster.io/warmup-ready"

def containersReady : String := "ContainersReady"
def running : String := "Running"

end Key

/-- The pod asks for warmup by the exact annotation value. -/
def requestsWarmup (pod : Pod) : Bool := pod.annotation? Key.enabled == some Key.enabledValue

end Pod
end WarmupGate
