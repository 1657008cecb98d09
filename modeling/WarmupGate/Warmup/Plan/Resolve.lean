import WarmupGate.Warmup.Plan
import WarmupGate.Span.Reader
import WarmupGate.Pod
import WarmupGate.Text.Ranges
import WarmupGate.Text.Integer

/-!
# Plans of pods

A pod's annotations override the default plan one by one. A value that is present but wrong is an
error and never the default; an empty value is the same as none. The port comes from its annotation,
or else from the only port of the only container. The first wrong item in the order requests,
duration, port is reported.
-/
namespace WarmupGate.Warmup.Plan

inductive Fault where
  | podMissing
  | invalidRequests (value reason : String)
  | tooFewRequests (count : Int)
  | invalidDuration (value reason : String)
  | durationTooShort (value : String)
  | invalidPort (value reason : String)
  | portOutOfRange (port : Int)
  | severalContainers
  | severalPorts (container : String)
  | noPorts
  deriving DecidableEq, Repr

def Fault.message : Fault → String
  | .podMissing => "cannot resolve: pod missing"
  | .invalidRequests value reason =>
    "invalid warmup-requests value " ++ Text.quote value ++ ": " ++ reason
  | .tooFewRequests count =>
    "warmup-requests must be at least 1, got " ++ Text.signedDecimal count
  | .invalidDuration value reason =>
    "invalid warmup-duration value " ++ Text.quote value ++ ": " ++ reason
  | .durationTooShort value => "warmup-duration must be at least 1s, got " ++ value
  | .invalidPort value reason =>
    "invalid warmup-port value " ++ Text.quote value ++ ": " ++ reason
  | .portOutOfRange port =>
    "warmup-port must be between 1 and 65535, got " ++ Text.signedDecimal port
  | .severalContainers =>
    "pod has multiple containers, please specify warmup port using annotation " ++ Pod.Key.port
  | .severalPorts container =>
    "container " ++ Text.quote container ++
      " has multiple ports, please specify warmup port using annotation " ++ Pod.Key.port
  | .noPorts =>
    "cannot determine warmup port: no container ports found, please specify using annotation " ++
      Pod.Key.port

/-- The value of an annotation; an empty one is the same as none. -/
def override? (pod : Pod) (key : String) : Option String :=
  (pod.annotation? key).filter (· ≠ "")

def maxRequests : Nat := Word.size 32 - 1

def readRequests (value : String) : Except Fault Nat :=
  match Text.readInt64 (Text.trim value.toList) with
  | .error fault => .error (.invalidRequests value fault.message)
  | .ok count =>
    if count < 1 then .error (.tooFewRequests count)
    else if (maxRequests : Int) < count then
      .error (.invalidRequests value ("must not exceed " ++ Text.decimal maxRequests))
    else .ok count.toNat

def readWindow (value : String) : Except Fault Span :=
  match Span.read (Text.trim value.toList) with
  | .error fault => .error (.invalidDuration value fault.message)
  | .ok (.negative d) => .error (.durationTooShort ("-" ++ d.text))
  | .ok (.positive d) => if minWindow ≤ d then .ok d else .error (.durationTooShort d.text)

def maxPort : Nat := 65535

def checkPort (port : Int) : Except Fault Nat :=
  if 1 ≤ port ∧ port ≤ (maxPort : Int) then .ok port.toNat else .error (.portOutOfRange port)

def readPort (value : String) : Except Fault Nat :=
  match Text.readInt64 (Text.trim value.toList) with
  | .error fault => .error (.invalidPort value fault.message)
  | .ok port => checkPort port

/-- The only port of the only container. -/
def detectPort (containers : List Container) : Except Fault Nat :=
  match containers with
  | [] => .error .noPorts
  | [container] =>
    match container.ports with
    | [] => .error .noPorts
    | [port] => checkPort port
    | _ => .error (.severalPorts container.name)
  | _ => .error .severalContainers

/-- The value that an override stands for, or the default without one. -/
def overridden {α : Type} (value? : Option String) (read : String → Except Fault α) (default : α) :
    Except Fault α :=
  match value? with
  | some value => read value
  | none => .ok default

def resolvePort (pod : Pod) : Except Fault Nat :=
  match override? pod Pod.Key.port with
  | some value => readPort value
  | none => detectPort pod.spec.containers

def resolve (pod : Pod) : Except Fault Plan := do
  let requests ← overridden (override? pod Pod.Key.requests) readRequests ({} : Plan).requests
  let window ← overridden (override? pod Pod.Key.duration) readWindow ({} : Plan).window
  let port ← resolvePort pod
  pure
    { endpoint := ((override? pod Pod.Key.endpoint).map normalizePath).getD ({} : Plan).endpoint
      requests, window, port
      address := pod.status.address.filter (· ≠ "")
      podName := pod.metadata.name.getD ""
      ns := pod.ns }

/-- The plan of a pod that may be missing altogether. -/
def resolve? (pod? : Option Pod) : Except Fault Plan :=
  match pod? with
  | none => .error .podMissing
  | some pod => resolve pod

end WarmupGate.Warmup.Plan
