import WarmupGate.Log.Filter
import WarmupGate.Log.Line

/-!
# Log setup

Where the events of a process go: all that pass the filter are printed, and written to a file of the
day as well if there is a directory for it. A directory that cannot be made leaves the process
without any log.
-/
namespace WarmupGate.Log

structure Setup where
  level : Level := .info
  json : Bool := false
  colorize : Bool := true
  fileName : String := "kube-booster"
  /-- The targets that are logged; an empty list is the same as none. -/
  targets : Option (List String) := none
  deriving DecidableEq, Repr

/-- The state of a directory for log files. -/
inductive Directory where
  /-- It is not there but can be made. -/
  | absent
  /-- It is there and has files. -/
  | present (files : List String)
  /-- It cannot be made. -/
  | blocked
  deriving DecidableEq, Repr

namespace Directory

def blocks : Option Directory → Bool
  | some .blocked => true
  | _ => false

end Directory

namespace Setup

/-- The targets of the program and of the library that it watches the cluster with. -/
def defaultTargets : List String := ["kube_booster", "kube_runtime"]

def ownFilter (s : Setup) : Filter :=
  match s.targets with
  | some (t :: ts) => .ofTargets (t :: ts) s.level
  | _ => .ofTargets defaultTargets s.level

/-- A valid filter from outside takes the place of the setup's own one. -/
def filter (s : Setup) (outside : Option String) : Filter :=
  (outside.bind Filter.read?).getD s.ownFilter

def fileOf (s : Setup) (date : String) : String :=
  if s.fileName = "" then date else s.fileName ++ "." ++ date

/-- What stands in the directory after the setup on a day. -/
def filesAfter (s : Setup) (date : String) : Directory → List String
  | .absent => [s.fileOf date]
  | .present files => if files.contains (s.fileOf date) then files else s.fileOf date :: files
  | .blocked => []

def logged (s : Setup) (outside : Option String) (dir : Option Directory) (events : List Event) :
    List Event :=
  if Directory.blocks dir then []
  else events.filter fun e => Filter.passes (s.filter outside) e.level e.target

/-- Printed texts are painted if the setup says so, objects and files never. -/
def paints (s : Setup) : Bool := s.colorize && !s.json

end Setup
end WarmupGate.Log
