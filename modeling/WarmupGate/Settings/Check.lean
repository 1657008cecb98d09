import WarmupGate.Log.Level
import WarmupGate.Settings
import WarmupGate.Text.Quoted

/-!
# Checking settings

The rules that settings have to keep, in the order in which they are checked; the first one that is
broken is reported.
-/
namespace WarmupGate.Settings

inductive Fault where
  | invalidValue (field value reason : String)
  | incompatible (reason : String)
  deriving DecidableEq, Repr

namespace Fault

def message : Fault → String
  | .invalidValue field value reason =>
    "Invalid value for field '" ++ field ++ "': " ++ value ++ " - " ++ reason
  | .incompatible reason => "Incompatible configuration: " ++ reason

/-- The fault as a term, the way a failing process shows it. -/
def term : Fault → String
  | .invalidValue field value reason =>
    "InvalidValue \x7b field: " ++ Text.quote field ++ ", value: " ++ Text.quote value ++
      ", reason: " ++ Text.quote reason ++ " \x7d"
  | .incompatible reason => "IncompatibleConfig \x7b reason: " ++ Text.quote reason ++ " \x7d"

end Fault

def portReason : String := "must be between 1 and 65535"

def checkWork (s : Settings) : Except Fault Unit :=
  if s.concurrency = 0 then .error (.invalidValue "concurrency" "0" "must be at least 1")
  else if s.requeueSeconds = 0 then
    .error (.invalidValue "requeue_delay_secs" "0" "must be at least 1 second")
  else .ok ()

/-- Both servers need a port, and not the same one at the same host. -/
def checkEndpoints (s : Settings) : Except Fault Unit :=
  if s.health.port = 0 then .error (.invalidValue "health.port" "0" portReason)
  else
    match s.metrics with
    | none => .ok ()
    | some metrics =>
      if metrics.port = 0 then .error (.invalidValue "metrics.port" "0" portReason)
      else if metrics = s.health then
        .error (.incompatible
          ("metrics and health probe servers cannot both bind " ++ metrics.text))
      else .ok ()

def checkLogging (s : Settings) : Except Fault Unit :=
  match s.logLevel with
  | none => .ok ()
  | some name =>
    match Log.Level.read? name with
    | some _ => .ok ()
    | none =>
      .error (.invalidValue "log_level" name "expected one of trace, debug, info, warn, error")

def check (s : Settings) : Except Fault Unit := do
  checkWork s
  checkEndpoints s
  checkLogging s

end WarmupGate.Settings
