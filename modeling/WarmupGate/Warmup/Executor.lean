import WarmupGate.Warmup.Trial

/-!
# Executors

An executor turns a plan into a report. One skips every run, one answers from a given report and
sends nothing, and one sends the requests.
-/
namespace WarmupGate.Warmup

inductive Executor where
  /-- Warmup is switched off. -/
  | skipping
  /-- Every run has this report; without one, all requests succeed at once. -/
  | canned (report : Option Report)
  | sending
  deriving DecidableEq, Repr

namespace Executor

def skippedMessage : String := "warmup skipped: no executor configured"

def skips : Executor → Bool
  | .skipping => true
  | _ => false

def skippedReport : Report := { success := true, message := skippedMessage }

/-- The report of a run whose requests all succeed in no time. -/
def cannedReport (p : Plan) : Report :=
  { success := true, completed := p.requests, message := "mock warmup completed" }

def run (e : Executor) (p : Plan) (limits : Limits) (target : Target) : Trial :=
  match e with
  | .skipping => { report := skippedReport }
  | .canned report => { report := report.getD (cannedReport p) }
  | .sending => Trial.run p limits target

/-- The plans that leave a trace in an executor that answers from a given report. -/
def notes : Executor → Plan → List Plan
  | .canned _, p => [p]
  | _, _ => []

end Executor
end WarmupGate.Warmup
