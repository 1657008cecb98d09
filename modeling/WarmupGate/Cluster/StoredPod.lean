import WarmupGate.Cluster.StatusPatch

/-!
# Pods as the cluster keeps them

The cluster keeps a pod under a version that grows with every change, and whoever reads the pod gets
the version with it. A patch of the status that names another version is refused as a conflict.
Otherwise its conditions take the place of the pod's, and nothing else of the pod changes. What the
cluster may refuse for other reasons is left out.
-/
namespace WarmupGate.Cluster

/-- The value of a member that may be left out; nothing if it is there and cannot be read. -/
def optionalMember? {α : Type} (name : String) (ofJson : Json → Option α) (v : Json) :
    Option (Option α) :=
  match v.get? name with
  | none => some none
  | some member => (ofJson member).map some

def timestampOf? (v : Json) : Option Timestamp := v.string?.map Timestamp.mk

def conditionOf? (v : Json) : Option Condition := do
  pure
    { type := ← (v.get? "type").bind Json.string?
      status := ← (v.get? "status").bind Json.string?
      reason := ← optionalMember? "reason" Json.string? v
      message := ← optionalMember? "message" Json.string? v
      lastProbe := ← optionalMember? "lastProbeTime" timestampOf? v
      lastTransition := ← optionalMember? "lastTransitionTime" timestampOf? v
      observedGeneration := ← optionalMember? "observedGeneration" Json.int? v }

namespace StatusPatch

def versionOf? (patch : Json) : Option String :=
  ((patch.get? "metadata").bind (Json.get? "resourceVersion")).bind Json.string?

def conditionsOf? (patch : Json) : Option (List Condition) := do
  let items ← ((patch.get? "status").bind (Json.get? "conditions")).bind Json.items?
  items.mapM conditionOf?

end StatusPatch

structure StoredPod where
  pod : Pod
  version : Nat
  deriving DecidableEq, Repr

namespace StoredPod

def conflictMessage : String :=
  "the object has been modified; please apply your changes to the latest version and try again"

def invalidMessage : String := "the patch has no list of conditions"

def versionText (s : StoredPod) : String := Text.decimal s.version

def read (s : StoredPod) : Pod :=
  { s.pod with metadata := { s.pod.metadata with resourceVersion := some s.versionText } }

/-- The pod after other conditions were put in the place of its own. The version goes up, by one or
more. -/
def replace (s : StoredPod) (gap : Nat) (conditions : List Condition) : StoredPod :=
  { pod := { s.pod with status := { s.pod.status with conditions } }
    version := s.version + gap + 1 }

def patch (s : StoredPod) (gap : Nat) (change : Json) : Response × StoredPod :=
  if (StatusPatch.versionOf? change).any (· != s.versionText) then
    (.described 409 conflictMessage "Conflict", s)
  else
    match StatusPatch.conditionsOf? change with
    | none => (.described 422 invalidMessage "Invalid", s)
    | some conditions => (.bare 200 "", s.replace gap conditions)

/-- Someone who has read a pod writes its conditions: what becomes of the write, and the pod after
it. -/
def write (s : StoredPod) (gap : Nat) (pod : Pod) (conditions : List Condition) :
    Except WriteFault Unit × StoredPod :=
  if StatusPatch.sendable pod then
    let (answer, after) := s.patch gap (StatusPatch.request pod conditions).body
    (StatusPatch.interpret pod answer, after)
  else (.error .unnamed, s)

end StoredPod
end WarmupGate.Cluster
