import WarmupGate.Cluster.Recorder
import WarmupGate.Cluster.StatusPatch
import WarmupGate.Controller.Reconcile
import WarmupGate.Settings

/-!
# The controller at work

The controller lists and watches pods, looks at every pod that it is told of at once, and looks
again when it said it would. It knows each pod as it was last told of it; what it wrote itself does
not count. A pod has at most one later look, and news of the pod takes its place. When the clock
jumps, every look that has become due takes place once. After shutdown nothing is looked at any
more.
-/
namespace WarmupGate.Controller

structure PodKey where
  ns : Option String
  name : String
  deriving DecidableEq, Repr

namespace PodKey

def ofPod (pod : Pod) : PodKey := ⟨pod.metadata.ns, pod.name⟩

def text (k : PodKey) : String :=
  "Pod.v1./" ++ k.name ++ (match k.ns with | some ns => "." ++ ns | none => "")

end PodKey

/-- What goes from the controller to the cluster. -/
inductive Exchange where
  | list (path : String) (selector : Option String)
  | watch (path : String) (selector : Option String)
  | patchStatus (request : Cluster.Request Json)
  | publish (request : Cluster.Request Cluster.EventRecord)

/-- What can be seen of the controller from outside. -/
structure Trace where
  exchanges : List Exchange := []
  samples : List Telemetry.Sample := []
  events : List Log.Event := []
  /-- The plans that were run. -/
  plans : List Warmup.Plan := []

namespace Trace

def append (a b : Trace) : Trace :=
  ⟨a.exchanges ++ b.exchanges, a.samples ++ b.samples, a.events ++ b.events, a.plans ++ b.plans⟩

instance : Append Trace := ⟨append⟩

end Trace

structure Loop (σ : Type) where
  settings : Settings
  executor : Warmup.Executor
  /-- The time that records are written with. -/
  stamp : Timestamp
  recorder : Cluster.Recorder σ
  /-- What the recorder keeps. -/
  kept : σ
  /-- What the cluster will answer to writes, one after the other; then it accepts. -/
  answers : List Cluster.Response := []
  /-- Every pod as it was last told of. -/
  known : List (PodKey × Pod) := []
  /-- When pods are looked at again, since the start. -/
  due : List (PodKey × Span) := []
  /-- Milliseconds since the start. -/
  clock : Nat := 0
  stopped : Bool := false

namespace Loop

variable {σ : Type}

def now (l : Loop σ) : Span := .ofMillis l.clock

/-- Requests are sent by the given executor, unless the settings switch them off. -/
def executorFor (s : Settings) (e : Warmup.Executor) : Warmup.Executor :=
  if s.warmup then e else .skipping

def event (level : Log.Level) (message : String) (fields : List (String × Log.Value)) : Log.Event :=
  { level, target := Log.Event.controllerTarget, message, fields }

/-- What is said when the controller starts. -/
def openingEvents (s : Settings) : List Log.Event :=
  (match s.node with
    | some node => [event .info "running in node-local mode" [("node", .shown node)]]
    | none => []) ++
  [event .info "starting pod warmup controller"
    [("namespace", .text (s.ns.getD "<all>")), ("concurrency", .number s.concurrency.toNat)]]

def stoppedEvent : Log.Event := event .info "pod warmup controller stopped" []

def actionTerm : Action → String
  | .awaitChange => "Action \x7b requeue_after: None \x7d"
  | .requeue d => "Action \x7b requeue_after: Some(" ++ d.text ++ ") \x7d"

def reconciledEvent (key : PodKey) (a : Action) : Log.Event :=
  event .debug "reconciled" [("pod", .shown key.name), ("action", .shown (actionTerm a))]

def failedEvent (key : PodKey) (f : Failure) : Log.Event :=
  event .warn "reconcile failed" [("pod", .shown key.name), ("error", .shown f.message)]

/-- A pod that was to be looked at again is not there any more. -/
def lostEvent (key : PodKey) : Log.Event :=
  event .warn "controller error"
    [("error",
      .shown ("tried to reconcile object " ++ key.text ++ " that was not found in local store"))]

/-- The next answer of the cluster and the ones behind it. -/
def nextAnswer (answers : List Cluster.Response) : Cluster.Response × List Cluster.Response :=
  match answers with
  | [] => (.bare 200 "", [])
  | a :: rest => (a, rest)

/-- One act of a reconciliation reaches the outside. -/
def carryOut (l : Loop σ) (pod : Pod) : Act → Loop σ × Trace
  | .log e => (l, { events := [e] })
  | .measure s => (l, { samples := [s] })
  | .execute p => (l, { plans := [p] })
  | .write conditions =>
    if Cluster.StatusPatch.sendable pod then
      ({ l with answers := (nextAnswer l.answers).2 },
        { exchanges := [.patchStatus (Cluster.StatusPatch.request pod conditions)] })
    else (l, {})
  | .publish notice =>
    let record := l.recorder.record l.kept l.stamp (.about pod notice)
    let (answer, rest) := nextAnswer l.answers
    ({ l with kept := l.recorder.settle l.kept record answer, answers := rest },
      { exchanges := [.publish record.request], events := Cluster.Recorder.eventsOf pod answer })

def carryOutAll (l : Loop σ) (pod : Pod) (acts : List Act) : Loop σ × Trace :=
  acts.foldl
    (fun done act =>
      let next := carryOut done.1 pod act
      (next.1, done.2 ++ next.2))
    (l, {})

def schedule (l : Loop σ) (key : PodKey) : Action → Loop σ
  | .awaitChange => l
  | .requeue d => { l with due := l.due ++ [(key, ⟨l.now.nanos + d.nanos⟩)] }

/-- Looks at a pod and does what comes of it. -/
def look (l : Loop σ) (key : PodKey) (pod : Pod) : Loop σ × Trace :=
  let answer := Cluster.StatusPatch.interpret pod (nextAnswer l.answers).1
  let r := reconcile
    { executor := l.executor, target := .ofList [], answer, now := l.stamp
      requeueDelay := l.settings.requeueDelay } pod
  let (l, trace) := carryOutAll l pod r.acts
  match r.result with
  | .ok action => (l.schedule key action, trace ++ { events := [reconciledEvent key action] })
  | .error failure =>
    let (act, action) := retry pod failure l.settings.errorDelay
    let (l, said) := l.carryOut pod act
    (l.schedule key action, trace ++ said ++ { events := [failedEvent key failure] })

def lookUp (l : Loop σ) (key : PodKey) : Loop σ × Trace :=
  match l.known.lookup key with
  | some pod => l.look key pod
  | none => (l, { events := [lostEvent key] })

/-- The time of a later look has come. -/
def isDue (l : Loop σ) (d : PodKey × Span) : Bool := decide (d.2 ≤ l.now)

/-- Every look that is due takes place once, the earliest first. -/
def lookAtDue (l : Loop σ) : Loop σ × Trace :=
  let ripe := (l.due.filter l.isDue).mergeSort fun a b => decide (a.2 ≤ b.2)
  let waiting := { l with due := l.due.filter (!l.isDue ·) }
  ripe.foldl
    (fun done d =>
      let next := done.1.lookUp d.1
      (next.1, done.2 ++ next.2))
    (waiting, {})

/-- Looks that become due at once are repeated for as long as the cluster has answers prepared,
which may be refusals; after that no look fails. -/
def settle : Nat → Loop σ → Loop σ × Trace
  | 0, l => (l, {})
  | rounds + 1, l =>
    if l.due.any l.isDue then
      let (l, first) := l.lookAtDue
      let (l, later) := settle rounds l
      (l, first ++ later)
    else (l, {})

/-- The pod is now known as it is here, and is looked at at once. -/
def told (l : Loop σ) (pod : Pod) : Loop σ × Trace :=
  let key := PodKey.ofPod pod
  let l := { l with
    known := (key, pod) :: l.known.filter (·.1 != key)
    due := l.due.filter (·.1 != key) }
  let (l, first) := l.look key pod
  let (l, later) := settle l.answers.length l
  (l, first ++ later)

inductive Happening where
  | added (pod : Pod)
  | modified (pod : Pod)
  | deleted (pod : Pod)
  | advance (millis : Nat)
  | shutdown

/-- A controller that has not stopped meets a happening. -/
def meet (l : Loop σ) : Happening → Loop σ × Trace
  | .added pod => l.told pod
  | .modified pod => l.told pod
  | .deleted pod =>
    ({ l with known := l.known.filter (·.1 != PodKey.ofPod pod) }, {})
  | .advance millis =>
    let l := { l with clock := l.clock + millis }
    settle (l.answers.length + 1) l
  | .shutdown => ({ l with stopped := true }, { events := [stoppedEvent] })

def step (l : Loop σ) (h : Happening) : Loop σ × Trace :=
  if l.stopped then
    match h with
    | .advance millis => ({ l with clock := l.clock + millis }, {})
    | _ => (l, {})
  else l.meet h

/-- The controller starts: it lists the pods, watches them from there on, and looks at each. -/
def start (l : Loop σ) (pods : List Pod) : Loop σ × Trace :=
  let opening : Trace :=
    { exchanges :=
        [.list l.settings.podsPath l.settings.nodeSelector,
          .watch l.settings.podsPath l.settings.nodeSelector]
      events := openingEvents l.settings }
  pods.foldl
    (fun done pod =>
      let next := done.1.told pod
      (next.1, done.2 ++ next.2))
    (l, opening)

end Loop
end WarmupGate.Controller
