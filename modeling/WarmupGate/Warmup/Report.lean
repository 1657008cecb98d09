import WarmupGate.Warmup.Tally
import WarmupGate.Text.Quoted

/-!
# Reports of warmup runs

A report says how a run ended: whether it counts as success, how many requests succeeded and failed,
how long it took, the two latencies, and the error if it did not run to its end. The summary is a
function of these fields.
-/
namespace WarmupGate.Warmup

/-- Why a scope ended before its work was done. -/
inductive Cause where
  | deadline
  | canceled
  deriving DecidableEq, Repr

def Cause.message : Cause → String
  | .deadline => "context deadline exceeded"
  | .canceled => "context canceled"

inductive RunError where
  | addressMissing
  | cancelled (cause : Cause)
  | client (detail : String)
  | task (detail : String)
  deriving DecidableEq, Repr

namespace RunError

def message : RunError → String
  | .addressMissing => "pod IP not set"
  | .cancelled cause => cause.message
  | .client detail => "failed to build HTTP client: " ++ detail
  | .task detail => "warmup task failed: " ++ detail

/-- The error as a term, the way diagnostics show it. -/
def term : RunError → String
  | .addressMissing => "AddressNotSet"
  | .cancelled .deadline => "Cancelled(DeadlineExceeded)"
  | .cancelled .canceled => "Cancelled(Canceled)"
  | .client detail => "Client(" ++ Text.quote detail ++ ")"
  | .task detail => "TaskFailed(" ++ Text.quote detail ++ ")"

def optionTerm : Option RunError → String
  | none => "None"
  | some e => "Some(" ++ e.term ++ ")"

end RunError

structure Report where
  /-- At least one request succeeded in a run that ran to its end. -/
  success : Bool := false
  completed : Nat := 0
  failed : Nat := 0
  elapsed : Span := .zero
  p50 : Span := .zero
  p99 : Span := .zero
  error : Option RunError := none
  message : String := ""
  deriving DecidableEq, Repr

namespace Report

def total (r : Report) : Nat := r.completed + r.failed

/-- The share of successes in percent: the quotient and then the product in double precision. -/
def successRate (r : Report) : Rat :=
  if r.total = 0 then 0
  else Binary64.nearest (Binary64.nearest ((r.completed : Rat) / (r.total : Rat)) * 100)

def summary (r : Report) : String :=
  match r.error with
  | some e => "warmup failed: " ++ e.message
  | none =>
    if r.total = 0 then "warmup skipped: no requests executed"
    else
      "warmup completed" ++ (if r.success then "" else " with failures") ++ ": " ++
        Text.decimal r.completed ++ "/" ++ Text.decimal r.total ++ " requests succeeded (" ++
        Binary64.oneDecimal r.successRate ++ "%), P50=" ++ r.p50.text ++ ", P99=" ++ r.p99.text

def failure (e : RunError) (message : String) : Report := { error := some e, message }

end Report
end WarmupGate.Warmup
