import WarmupGate.Json.Record
import WarmupGate.Text.Quoted
import WarmupGate.Text.Integer

/-!
# Refusals of the cluster

A refusal carries what the cluster says about it, in a record that may leave out message and reason.
A write to a pod that lost a race or came too late is told apart by its code. A write to a pod
without a name is not even sent.
-/
namespace WarmupGate.Cluster

structure Refusal where
  status : String := ""
  message : String := ""
  reason : String := ""
  code : Nat
  deriving DecidableEq, Repr

namespace Refusal

/-- The members of a refusal that were read so far. -/
structure Draft where
  status : Option String := none
  message : Option String := none
  reason : Option String := none
  code : Option Nat := none
  deriving DecidableEq, Repr

open Json in
def members : List (Member Draft) :=
  [⟨"status", (·.status.isSome), into readString fun d v => { d with status := some v }⟩,
    ⟨"message", (·.message.isSome), into readString fun d v => { d with message := some v }⟩,
    ⟨"reason", (·.reason.isSome), into readString fun d v => { d with reason := some v }⟩,
    ⟨"code", (·.code.isSome), into (readNat (Word.size 16)) fun d v => { d with code := some v }⟩]

def Draft.finish (d : Draft) : Option Refusal := do
  pure
    { status := ← d.status
      message := d.message.getD ""
      reason := d.reason.getD ""
      code := ← d.code }

def ofText? (s : String) : Option Refusal :=
  (Json.readAll (Json.readRecord members {} Draft.finish) s.toList).toOption

def record (r : Refusal) : String :=
  "ErrorResponse \x7b status: " ++ Text.quote r.status ++ ", message: " ++ Text.quote r.message ++
    ", reason: " ++ Text.quote r.reason ++ ", code: " ++ Text.decimal r.code ++ " \x7d"

def text (r : Refusal) : String :=
  "ApiError: " ++ r.message ++ ": " ++ r.reason ++ " (" ++ r.record ++ ")"

end Refusal

inductive WriteFault where
  /-- The pod was changed since it was read. -/
  | conflict (ns name : String)
  | notFound (ns name : String)
  /-- The pod has no name to write to. -/
  | unnamed
  | refused (refusal : Refusal)
  deriving DecidableEq, Repr

namespace WriteFault

def message : WriteFault → String
  | .conflict ns name =>
    "conflict updating pod " ++ ns ++ "/" ++ name ++ ": object has been modified"
  | .notFound ns name => "pod " ++ ns ++ "/" ++ name ++ " not found"
  | .unnamed =>
    "kubernetes API error: Failed to build request: failed to validate request: " ++
      "A non-empty name is required"
  | .refused refusal => "kubernetes API error: " ++ refusal.text

/-- The pod is gone, so there is nothing left to write. -/
def gone : WriteFault → Bool
  | .notFound .. => true
  | _ => false

/-- The fault that a refused write to a pod comes to. -/
def ofRefusal (ns name : String) (r : Refusal) : WriteFault :=
  if r.code = 409 then .conflict ns name
  else if r.code = 404 then .notFound ns name
  else .refused r

end WriteFault
end WarmupGate.Cluster
