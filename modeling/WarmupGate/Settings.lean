import WarmupGate.Span
import WarmupGate.Text.Numeral

/-!
# Settings of the controller

What the process can be told: which pods it watches, how many it works on at once, when it looks
again, whether it sends requests at all, where it serves metrics and probes, and how it logs.
-/
namespace WarmupGate

structure Endpoint where
  port : UInt16
  host : String
  deriving DecidableEq, Repr

def Endpoint.text (e : Endpoint) : String := e.host ++ ":" ++ Text.decimal e.port.toNat

structure Settings where
  /-- The only namespace that is watched; all of them without it. -/
  ns : Option String := none
  /-- The only node whose pods are watched. -/
  node : Option String := none
  /-- How many pods are worked on at once. -/
  concurrency : UInt16 := 16
  /-- The time until a pod that is not ready yet is looked at again. -/
  requeueSeconds : UInt64 := 5
  /-- The time until a failed write is tried again. -/
  errorRequeueSeconds : UInt64 := 10
  /-- Requests are sent; without that, pods are let through as they are. -/
  warmup : Bool := true
  metrics : Option Endpoint := some ⟨8080, "0.0.0.0"⟩
  health : Endpoint := ⟨8081, "0.0.0.0"⟩
  logDir : Option String := none
  logLevel : Option String := none
  logJson : Bool := false
  deriving DecidableEq, Repr

namespace Settings

def requeueDelay (s : Settings) : Span := .ofSeconds s.requeueSeconds.toNat
def errorDelay (s : Settings) : Span := .ofSeconds s.errorRequeueSeconds.toNat

/-- The namespace that is watched. An empty one is the same as none. -/
def scope (s : Settings) : Option String := s.ns.filter (· ≠ "")

/-- What the cluster is asked to select pods by. An empty node is the same as none. -/
def nodeSelector (s : Settings) : Option String :=
  (s.node.filter (· ≠ "")).map ("spec.nodeName=" ++ ·)

/-- The path of the pods that are watched. -/
def podsPath (s : Settings) : String :=
  match s.scope with
  | some ns => "/api/v1/namespaces/" ++ ns ++ "/pods"
  | none => "/api/v1/pods"

end Settings
end WarmupGate
