import WarmupGate.Settings
import WarmupGate.Text.Integer

/-!
# The command line

The arguments are read from left to right into settings. An option takes the next argument as its
value, or what stands behind an equals sign; a switch takes none. An argument that cannot be placed
is refused at once. A value is only looked at when the next option or switch follows, or at the end,
so an argument that cannot be placed counts before a wrong value in front of it.
-/
namespace WarmupGate.Service

/-- Why a command line is refused; asking for help ends the reading as well. -/
inductive ArgumentFault where
  /-- An argument that cannot be placed. -/
  | unknown
  /-- A missing value, or one that is not in the list of possible ones. -/
  | invalidValue
  /-- A value that cannot be read. -/
  | unreadable
  /-- An option or switch that was there before. -/
  | repeated
  /-- A switch with a value. -/
  | unwantedValue
  | helpWanted
  deriving DecidableEq, Repr

namespace ArgumentFault

/-- How a process ends that could not read its command line. -/
def exitCode : ArgumentFault → Nat
  | .helpWanted => 0
  | _ => 2

def message : ArgumentFault → String
  | .unknown => "error: unexpected argument"
  | .invalidValue => "error: a value is missing or not one of the possible values"
  | .unreadable => "error: invalid value"
  | .repeated => "error: an argument cannot be used multiple times"
  | .unwantedValue => "error: unexpected value for a switch"
  | .helpWanted => "Holds a pod's readiness gate until it has received warmup traffic"

end ArgumentFault

inductive Argument where
  | ns
  | node
  | concurrency
  | requeueSeconds
  | errorRequeueSeconds
  | disableWarmup
  | metricsHost
  | metricsPort
  | disableMetrics
  | healthHost
  | healthPort
  | logLevel
  | logDir
  | logJson
  | help
  deriving DecidableEq, Repr

namespace Argument

def named? (name : String) : Option Argument :=
  match name with
  | "namespace" => some .ns
  | "node-name" => some .node
  | "concurrency" => some .concurrency
  | "requeue-delay-secs" => some .requeueSeconds
  | "error-requeue-secs" => some .errorRequeueSeconds
  | "disable-warmup" => some .disableWarmup
  | "prometheus-host" => some .metricsHost
  | "prometheus-port" => some .metricsPort
  | "disable-metrics" => some .disableMetrics
  | "health-host" => some .healthHost
  | "health-port" => some .healthPort
  | "log-level" => some .logLevel
  | "log-dir" => some .logDir
  | "log-json" => some .logJson
  | "help" => some .help
  | _ => none

def isSwitch : Argument → Bool
  | .disableWarmup => true
  | .disableMetrics => true
  | .logJson => true
  | .help => true
  | _ => false

end Argument

structure Arguments where
  ns : Option String := none
  node : Option String := none
  concurrency : UInt16 := ({} : Settings).concurrency
  requeueSeconds : UInt64 := ({} : Settings).requeueSeconds
  errorRequeueSeconds : UInt64 := ({} : Settings).errorRequeueSeconds
  disableWarmup : Bool := false
  metrics : Endpoint := ⟨8080, "0.0.0.0"⟩
  disableMetrics : Bool := false
  health : Endpoint := ({} : Settings).health
  logLevel : Option String := none
  logDir : Option String := none
  logJson : Bool := false
  deriving DecidableEq, Repr

namespace Arguments

/-- The names that a level may have here; letters count as they are. -/
def levelNames : List String := ["trace", "debug", "info", "warn", "error"]

def readWord16 (value : String) : Except ArgumentFault UInt16 :=
  match Text.readInt64 value.toList with
  | .ok n => if 0 ≤ n ∧ n < 65536 then .ok (UInt16.ofNat n.toNat) else .error .unreadable
  | .error _ => .error .unreadable

def readWord64 (value : String) : Except ArgumentFault UInt64 :=
  match Text.readWord64 value.toList with
  | .ok n => .ok (UInt64.ofNat n)
  | .error _ => .error .unreadable

def set (a : Arguments) (value : String) : Argument → Except ArgumentFault Arguments
  | .ns => .ok { a with ns := some value }
  | .node => .ok { a with node := some value }
  | .concurrency => (readWord16 value).map fun n => { a with concurrency := n }
  | .requeueSeconds => (readWord64 value).map fun n => { a with requeueSeconds := n }
  | .errorRequeueSeconds => (readWord64 value).map fun n => { a with errorRequeueSeconds := n }
  | .metricsHost => .ok { a with metrics := ⟨a.metrics.port, value⟩ }
  | .metricsPort => (readWord16 value).map fun n => { a with metrics := ⟨n, a.metrics.host⟩ }
  | .healthHost => .ok { a with health := ⟨a.health.port, value⟩ }
  | .healthPort => (readWord16 value).map fun n => { a with health := ⟨n, a.health.host⟩ }
  | .logLevel =>
    if levelNames.contains value then .ok { a with logLevel := some value }
    else .error .invalidValue
  | .logDir => .ok { a with logDir := some value }
  | _ => .error .unwantedValue

def turnOn (a : Arguments) : Argument → Except ArgumentFault Arguments
  | .disableWarmup => .ok { a with disableWarmup := true }
  | .disableMetrics => .ok { a with disableMetrics := true }
  | .logJson => .ok { a with logJson := true }
  | .help => .error .helpWanted
  | _ => .error .invalidValue

/-- The settings; without an option for the node the environment may name it. An empty name of a
node is no name. -/
def settings (a : Arguments) (nodeOutside : Option String) : Settings :=
  { ns := a.ns
    node := (a.node <|> nodeOutside).filter (· ≠ "")
    concurrency := a.concurrency
    requeueSeconds := a.requeueSeconds
    errorRequeueSeconds := a.errorRequeueSeconds
    warmup := !a.disableWarmup
    metrics := if a.disableMetrics then none else some a.metrics
    health := a.health
    logDir := a.logDir
    logLevel := a.logLevel
    logJson := a.logJson }

end Arguments

structure CommandLine where
  arguments : Arguments := {}
  /-- The options and switches that were there. -/
  seen : List Argument := []
  /-- The last option, whose value has not been looked at. -/
  pending : Option (Argument × Option String) := none

namespace CommandLine

/-- Notes that an option or switch is there, for the first time. -/
def mark (c : CommandLine) (key : Argument) : Except ArgumentFault CommandLine :=
  if c.seen.contains key then .error .repeated else .ok { c with seen := key :: c.seen }

/-- Looks at the value of the last option. -/
def settle (c : CommandLine) : Except ArgumentFault CommandLine :=
  match c.pending with
  | none => .ok c
  | some (_, none) => .error .invalidValue
  | some (key, some value) => do
    let c ← c.mark key
    let arguments ← c.arguments.set value key
    pure { c with arguments, pending := none }

/-- A switch is there. Help is shown whatever was there before. -/
def switch (c : CommandLine) (key : Argument) : Except ArgumentFault CommandLine := do
  let c ← c.settle
  let c ← if key = .help then pure c else c.mark key
  let arguments ← c.arguments.turnOn key
  pure { c with arguments }

/-- An option is there, with its value if that came along. -/
def expectValue (c : CommandLine) (key : Argument) (value : Option String) :
    Except ArgumentFault CommandLine := do
  let c ← c.settle
  pure { c with pending := some (key, value) }

/-- What stands before and behind the first equals sign. -/
def splitValue (s : List Char) : String × Option String :=
  let name := String.ofList (s.takeWhile (· != '='))
  match s.dropWhile (· != '=') with
  | [] => (name, none)
  | _ :: value => (name, some (String.ofList value))

def long (c : CommandLine) (s : List Char) : Except ArgumentFault CommandLine :=
  let (name, value) := splitValue s
  match Argument.named? name with
  | none => .error .unknown
  | some key =>
    if key.isSwitch then
      match value with
      | some _ => .error .unwantedValue
      | none => c.switch key
    else
      match value with
      | some v => do
        let c ← c.expectValue key (some v)
        c.settle
      | none => c.expectValue key none

/-- An argument that names nothing is the value of the last option, if that has none yet. -/
def plain (c : CommandLine) (value : String) : Except ArgumentFault CommandLine :=
  match c.pending with
  | some (key, none) => .ok { c with pending := some (key, some value) }
  | _ => .error .unknown

/-- Reads the arguments one by one. Behind two bare dashes nothing can be placed. -/
def readFrom (c : CommandLine) : List String → Except ArgumentFault CommandLine
  | [] => c.settle
  | arg :: rest =>
    match arg.toList with
    | ['-', '-'] => if rest.isEmpty then c.settle else .error .unknown
    | '-' :: '-' :: s => (c.long s).bind (readFrom · rest)
    | '-' :: 'h' :: _ => (c.switch .help).bind (readFrom · rest)
    | '-' :: _ :: _ => .error .unknown
    | _ => (c.plain arg).bind (readFrom · rest)

def read (args : List String) : Except ArgumentFault Arguments :=
  (readFrom {} args).map CommandLine.arguments

end CommandLine
end WarmupGate.Service
