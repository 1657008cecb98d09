import WarmupGate.Cluster.Exchange
import WarmupGate.Pod

/-!
# Writing a pod's conditions

The conditions of a pod are replaced as a whole, by a merge patch of the pod's status. If the pod
has a version, the patch names it, so the cluster refuses the patch when the pod was changed
meanwhile.
-/
namespace WarmupGate.Cluster

/-- A member that is left out when there is no value. -/
def optionalMember {α : Type} (name : String) (toJson : α → Json) : Option α → List (String × Json)
  | some a => [(name, toJson a)]
  | none => []

def timestampJson (t : Timestamp) : Json := .string t.text

def conditionJson (c : Condition) : Json :=
  .object
    (("type", .string c.type) :: ("status", .string c.status) ::
      (optionalMember "reason" .string c.reason ++ optionalMember "message" .string c.message ++
        optionalMember "lastProbeTime" timestampJson c.lastProbe ++
        optionalMember "lastTransitionTime" timestampJson c.lastTransition ++
        optionalMember "observedGeneration" Json.int c.observedGeneration))

namespace StatusPatch

/-- The pod must still have the version that was read. -/
def precondition (version : String) : Json := .object [("resourceVersion", .string version)]

def body (pod : Pod) (conditions : List Condition) : Json :=
  .object
    (optionalMember "metadata" precondition pod.metadata.resourceVersion ++
      [("status", .object [("conditions", .array (conditions.map conditionJson))])])

def path (pod : Pod) : String :=
  "/api/v1/namespaces/" ++ pod.ns ++ "/pods/" ++ pod.name ++ "/status"

def request (pod : Pod) (conditions : List Condition) : Request Json :=
  { path := path pod, content := .change (body pod conditions) }

/-- A pod without a name cannot be written to, so nothing is sent. -/
def sendable (pod : Pod) : Bool := pod.name != ""

/-- What the answer to the patch means for the write. -/
def interpret (pod : Pod) (r : Response) : Except WriteFault Unit :=
  if sendable pod then
    match r.refusal? with
    | none => .ok ()
    | some refusal => .error (.ofRefusal pod.ns pod.name refusal)
  else .error .unnamed

end StatusPatch
end WarmupGate.Cluster
