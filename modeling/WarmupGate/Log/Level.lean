/-!
# Log levels

The five levels from the most to the least talkative one, their names, and the reading of a name
regardless of the case of its letters.
-/
namespace WarmupGate.Log

inductive Level where
  | trace
  | debug
  | info
  | warn
  | error
  deriving DecidableEq, Repr

namespace Level

/-- Grows with the importance of an event. -/
def severity : Level → Nat
  | .trace => 0
  | .debug => 1
  | .info => 2
  | .warn => 3
  | .error => 4

def name : Level → String
  | .trace => "TRACE"
  | .debug => "DEBUG"
  | .info => "INFO"
  | .warn => "WARN"
  | .error => "ERROR"

/-- Upper-case ASCII letters become lower-case ones; everything else stays. -/
def lowerAscii (s : List Char) : List Char := s.map Char.toLower

/-- The level that a configured name stands for. -/
def read? (s : String) : Option Level :=
  match String.ofList (lowerAscii s.toList) with
  | "trace" => some .trace
  | "debug" => some .debug
  | "info" => some .info
  | "warn" => some .warn
  | "warning" => some .warn
  | "error" => some .error
  | _ => none

end Level
end WarmupGate.Log
