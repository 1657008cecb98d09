import WarmupGate.Log.Level

/-!
# Log events

What a program point reports: a level, the target that names its part of the program, a message, and
named values. A named value that is itself called message takes the place of the message.
-/
namespace WarmupGate.Log

inductive Value where
  /-- A text as such; it is quoted where values stand side by side. -/
  | text (value : String)
  /-- The written form of some other value. -/
  | shown (value : String)
  | flag (value : Bool)
  | number (value : Nat)
  | real (value : Rat)
  deriving DecidableEq, Repr

structure Event where
  level : Level
  target : String
  message : String
  fields : List (String × Value) := []
  deriving DecidableEq, Repr

namespace Event

/-- The parts of the program that report events. -/
def engineTarget : String := "kube_booster::warmup::engine"
def reconcilerTarget : String := "kube_booster::controller::reconciler"
def podApiTarget : String := "kube_booster::controller::pod_api"
def controllerTarget : String := "kube_booster::controller"
def serverTarget : String := "kube_booster::server"
def healthTarget : String := "kube_booster::health"

/-- The message and the fields, each name once. -/
def members (e : Event) : List (String × Value) :=
  match e.fields.lookup "message" with
  | some v => ("message", v) :: e.fields.filter (·.1 != "message")
  | none => ("message", .shown e.message) :: e.fields

end Event
end WarmupGate.Log
