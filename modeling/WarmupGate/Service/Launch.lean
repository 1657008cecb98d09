import WarmupGate.Controller.Loop
import WarmupGate.Log.Setup
import WarmupGate.Service.CommandLine
import WarmupGate.Service.Version
import WarmupGate.Settings.Check

/-!
# Launching the process

The parts of the process are set up one after the other: the metrics server, the executor, the
client of the cluster, the probe server, the controller. The first part that cannot be set up ends
the process, and what was said until then shows how far it came.
-/
namespace WarmupGate.Service

structure Machine where
  /-- The address for metrics can be had. -/
  metricsFree : Bool := true
  /-- The address for probes can be had. -/
  probesFree : Bool := true
  /-- There is a description of a cluster; the cluster itself may still be out of reach. -/
  clusterKnown : Bool := true
  deriving DecidableEq, Repr

/-- Why the process could not be launched. -/
inductive LaunchFault where
  | metricsServer
  | clusterClient
  | probeServer (endpoint : Endpoint)
  deriving DecidableEq, Repr

namespace LaunchFault

def message : LaunchFault → String
  | .metricsServer => "failed to start Prometheus exporter"
  | .clusterClient => "failed to create Kubernetes client"
  | .probeServer e => "failed to bind health probe server on " ++ e.text

end LaunchFault

inductive EndSignal where
  | terminate
  | interrupt
  deriving DecidableEq, Repr

namespace Launch

def event (level : Log.Level) (message : String) (fields : List (String × Log.Value) := []) :
    Log.Event :=
  { level, target := Log.Event.serverTarget, message, fields }

def startingEvent (s : Settings) : Log.Event :=
  event .info "starting kube-booster controller"
    [("version", .text version), ("namespace", .text (s.ns.getD "<all>")),
      ("node", .text (s.node.getD "<all>")), ("warmup_enabled", .flag s.warmup)]

def metricsEvent (e : Endpoint) : Log.Event :=
  event .info ("Prometheus exporter listening on " ++ e.text)

def disabledEvent : Log.Event :=
  event .warn "warmup disabled: gates will be satisfied without sending traffic"

def probeEvent (e : Endpoint) : Log.Event :=
  { level := .info
    target := Log.Event.healthTarget
    message := "Health probe server listening on " ++ e.text }

def signalEvent : EndSignal → Log.Event
  | .terminate => event .info "Received terminate signal, starting graceful shutdown"
  | .interrupt => event .info "Received Ctrl+C, starting graceful shutdown"

/-- One part of the process: why it cannot be set up, if it cannot, and what is said when it is. -/
structure Stage where
  obstacle : Option LaunchFault := none
  said : List Log.Event := []

def needing (available : Bool) (fault : LaunchFault) (said : List Log.Event := []) : Stage :=
  { obstacle := if available then none else some fault, said }

/-- The parts in the order in which they are set up. -/
def stages (s : Settings) (m : Machine) : List Stage :=
  [{ said := [startingEvent s] }] ++
    s.metrics.toList.map (fun e => needing m.metricsFree .metricsServer [metricsEvent e]) ++
    (if s.warmup then [] else [{ said := [disabledEvent] }]) ++
    [needing m.clusterKnown .clusterClient,
      needing m.probesFree (.probeServer s.health) [probeEvent s.health],
      { said := Controller.Loop.openingEvents s }]

/-- Sets parts up until one of them cannot be. -/
def setUp : List Stage → List Log.Event × Option LaunchFault
  | [] => ([], none)
  | stage :: rest =>
    match stage.obstacle with
    | some fault => ([], some fault)
    | none =>
      let (said, fault) := setUp rest
      (stage.said ++ said, fault)

/-- Sets the process up. Without a fault the controller runs. -/
def run (s : Settings) (m : Machine) : List Log.Event × Option LaunchFault := setUp (stages s m)

def logSetup (s : Settings) : Log.Setup :=
  { level := (s.logLevel.bind Log.Level.read?).getD .info, json := s.logJson }

end Launch

/-- How a process ends before its controller runs. -/
inductive Conclusion where
  /-- It was asked for its version. -/
  | version (question : VersionQuestion)
  | badArguments (fault : ArgumentFault)
  | badSettings (fault : Settings.Fault)
  /-- It can be launched. -/
  | launched (settings : Settings)
  deriving DecidableEq, Repr

namespace Conclusion

/-- What the arguments of a process come to. A question for the version is answered before the
arguments are read. -/
def ofArguments (args : List String) (nodeOutside : Option String) : Conclusion :=
  match VersionQuestion.first? args with
  | some q => .version q
  | none =>
    match CommandLine.read args with
    | .error f => .badArguments f
    | .ok a =>
      let s := a.settings nodeOutside
      match s.check with
      | .error f => .badSettings f
      | .ok () => .launched s

/-- The line that a failed process ends with. -/
def failureLine (message : String) : String := "Error: " ++ message

end Conclusion
end WarmupGate.Service
