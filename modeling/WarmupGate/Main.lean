import Std.Time.Format
import WarmupGate.Json.Printer
import WarmupGate.Service.Launch

/-!
# The program

Reads the arguments and the environment, says what comes of them, and ends with the code that
belongs to it. The program has no client for a cluster of its own, so a launch ends where it would
need one.
-/
namespace WarmupGate.Service

def machine : Machine := { clusterKnown := false }

def timeText : IO String := do
  let now ← Std.Time.Timestamp.now
  pure ((Std.Time.DateTime.ofTimestamp now .UTC).format "uuuu-MM-dd HH:mm:ss")

def writeLine (s : Settings) (painted : Bool) (e : Log.Event) : IO String := do
  let time ← timeText
  pure (if s.logJson then (Log.Line.toJson time e).text else Log.Line.text painted time "launch:" e)

/-- Launches the process and says how far it came. -/
def launch (s : Settings) (filter : Option String) : IO UInt32 := do
  let setup := Launch.logSetup s
  let (events, fault) := Launch.run s machine
  for e in setup.logged filter none events do
    IO.println (← writeLine s setup.paints e)
  match fault with
  | some f =>
    IO.eprintln (Conclusion.failureLine f.message)
    pure 1
  | none => pure 0

def conclude (args : List String) (node filter : Option String) : IO UInt32 := do
  match Conclusion.ofArguments args node with
  | .version q =>
    (q.answer {}).forM IO.println
    pure 0
  | .badArguments f =>
    IO.eprintln f.message
    pure (UInt32.ofNat f.exitCode)
  | .badSettings f =>
    IO.eprintln (Conclusion.failureLine f.term)
    pure 1
  | .launched s => launch s filter

end WarmupGate.Service

def main (args : List String) : IO UInt32 := do
  let node ← IO.getEnv "NODE_NAME"
  let filter ← IO.getEnv "RUST_LOG"
  WarmupGate.Service.conclude args node filter
