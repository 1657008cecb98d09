import WarmupGate.Cluster.Fault
import WarmupGate.Controller.Outcome
import WarmupGate.Pod.Gate

/-!
# Reconciling a pod

One look at a pod: wait, look again later, or warm it up and record the outcome in its conditions.
What the controller does is a list of acts in their order, so a reconciliation is a function of the
pod and the circumstances; nothing here carries the acts out. The outcome is recorded once, a notice
is published only after the record was accepted, and a run that shutdown cut short is not recorded.
-/
namespace WarmupGate.Controller

/-- When the controller looks at a pod again. -/
inductive Action where
  /-- When the pod changes. -/
  | awaitChange
  /-- When the pod changes, or after a time. -/
  | requeue (delay : Span)
  deriving DecidableEq, Repr

inductive Act where
  | log (event : Log.Event)
  | measure (sample : Telemetry.Sample)
  /-- Starts a run. -/
  | execute (plan : Warmup.Plan)
  /-- Writes the full list of a pod's conditions. -/
  | write (conditions : List Condition)
  | publish (notice : Notice)
  deriving DecidableEq

namespace Act

def event? : Act → Option Log.Event
  | .log e => some e
  | _ => none

def sample? : Act → Option Telemetry.Sample
  | .measure s => some s
  | _ => none

def plan? : Act → Option Warmup.Plan
  | .execute p => some p
  | _ => none

def written? : Act → Option (List Condition)
  | .write cs => some cs
  | _ => none

def notice? : Act → Option Notice
  | .publish n => some n
  | _ => none

end Act

/-- The record of a warmup on a pod was not accepted. -/
structure Failure where
  ns : String
  name : String
  fault : Cluster.WriteFault
  deriving DecidableEq, Repr

def Failure.message (f : Failure) : String :=
  "failed to record warmup condition on pod " ++ f.ns ++ "/" ++ f.name ++ ": " ++ f.fault.message

/-- All that a reconciliation depends on besides the pod. -/
structure Circumstances where
  executor : Warmup.Executor
  target : Warmup.Target
  /-- The millisecond of the run at which shutdown begins; zero if it has begun before. -/
  shutdownAt : Option Nat := none
  /-- The answer to a write, if there is one. -/
  answer : Except Cluster.WriteFault Unit := .ok ()
  /-- The time of the write. -/
  now : Timestamp
  requeueDelay : Span

/-- The run of a plan, within its window and until shutdown. -/
def Circumstances.trial (c : Circumstances) (plan : Warmup.Plan) : Warmup.Trial :=
  c.executor.run plan ⟨some plan.window, c.shutdownAt⟩ c.target

structure Reconciliation where
  acts : List Act
  result : Except Failure Action
  /-- What the target received. -/
  arrivals : List Warmup.Arrival := []
  lasted : Nat := 0

namespace Reconciliation

def events (r : Reconciliation) : List Log.Event := r.acts.filterMap Act.event?
def samples (r : Reconciliation) : List Telemetry.Sample := r.acts.filterMap Act.sample?
def plans (r : Reconciliation) : List Warmup.Plan := r.acts.filterMap Act.plan?
def writes (r : Reconciliation) : List (List Condition) := r.acts.filterMap Act.written?
def notices (r : Reconciliation) : List Notice := r.acts.filterMap Act.notice?

end Reconciliation

def podEvent (level : Log.Level) (pod : Pod) (message : String)
    (fields : List (String × Log.Value) := []) : Act :=
  .log
    { level
      target := Log.Event.reconcilerTarget
      message
      fields := ("pod", .shown pod.name) :: ("namespace", .shown pod.ns) :: fields }

/-- What an attempt to warm a pod up came to. -/
structure Attempt where
  outcome : Outcome
  acts : List Act
  arrivals : List Warmup.Arrival := []
  lasted : Nat := 0

/-- A run of a plan of a pod. The pod counts as pending for as long as the run takes. -/
def Attempt.ofTrial (pod : Pod) (plan : Warmup.Plan) (trial : Warmup.Trial) : Attempt :=
  { outcome := .executed trial.report
    acts :=
      .measure (.pendingUp plan.ns pod.node) :: .execute plan ::
        (trial.events.map .log ++ trial.samples.map .measure ++
          [.measure (.runResult plan.ns trial.report.success trial.report.elapsed),
            .measure (.runRequests plan.ns trial.report.total),
            .measure (.pendingDown plan.ns pod.node)])
    arrivals := trial.arrivals
    lasted := trial.lasted }

/-- Warms a pod up as its annotations say. -/
def attempt (c : Circumstances) (pod : Pod) : Attempt :=
  match Warmup.Plan.resolve pod with
  | .error fault =>
    { outcome := .unplanned fault
      acts :=
        [podEvent .error pod "failed to resolve warmup config" [("error", .shown fault.message)]] }
  | .ok plan =>
    if c.executor.skips then
      { outcome := .skipped, acts := [podEvent .info pod Warmup.Executor.skippedMessage] }
    else .ofTrial pod plan (c.trial plan)

/-- Shutdown has begun by the end of the attempt. -/
def Attempt.sawShutdown (a : Attempt) (c : Circumstances) : Bool :=
  c.shutdownAt.any (fun moment => decide (moment ≤ a.lasted))

/-- The closing event of a recorded outcome. -/
def closing (pod : Pod) : Outcome → List Act
  | .unplanned fault =>
    [podEvent .info pod "warmup skipped due to config error (fail-open)"
      [("error", .shown fault.message)]]
  | .executed report =>
    if report.success then
      [podEvent .info pod "warmup completed successfully" [("message", .shown report.message)]]
    else
      [podEvent .info pod "warmup completed with issues (fail-open)"
        [("message", .shown report.message),
          ("error", .shown (Warmup.RunError.optionTerm report.error))]]
  | .skipped => []

/-- The pod's conditions with the one that opens the gate. -/
def recorded (pod : Pod) (outcome : Outcome) (now : Timestamp) : List Condition :=
  Condition.upsert pod.status.conditions (outcome.condition now)

/-- Records an outcome. A pod that is gone needs no record. -/
def record (c : Circumstances) (pod : Pod) (outcome : Outcome) : List Act × Except Failure Action :=
  let write := Act.write (recorded pod outcome c.now)
  match c.answer with
  | .ok () => (write :: .publish outcome.notice :: closing pod outcome, .ok .awaitChange)
  | .error fault =>
    if fault.gone then
      ([write, podEvent .debug pod "pod deleted during warmup, nothing to record"],
        .ok .awaitChange)
    else
      let refused : Log.Event :=
        { level := .error
          target := Log.Event.reconcilerTarget
          message := "failed to update pod condition"
          fields := [("pod", .shown pod.name), ("error", .shown fault.message)] }
      ([write, .log refused], .error ⟨pod.ns, pod.name, fault⟩)

/-- Closes an attempt, with or without shutdown begun by now. An outcome that shutdown has cut short
is not recorded. -/
def conclude (c : Circumstances) (pod : Pod) (shuttingDown : Bool) (outcome : Outcome) :
    List Act × Except Failure Action :=
  if shuttingDown && outcome.cancelled then
    ([podEvent .info pod "shutdown interrupted warmup, not recording a result"], .ok .awaitChange)
  else record c pod outcome

def opening (pod : Pod) : List Act :=
  let unasked :=
    if pod.requestsWarmup then []
    else [podEvent .debug pod "pod declares the warmup gate without the enabling annotation"]
  unasked ++ [podEvent .info pod "starting warmup execution"]

/-- An attempt with all that goes before and after it. -/
def Attempt.reconciled (a : Attempt) (c : Circumstances) (pod : Pod) (shuttingDown : Bool) :
    Reconciliation :=
  let closed := conclude c pod shuttingDown a.outcome
  { acts := opening pod ++ a.acts ++ closed.1
    result := closed.2
    arrivals := a.arrivals
    lasted := a.lasted }

/-- Warms a pod up and records the outcome. -/
def warmUp (c : Circumstances) (pod : Pod) : Reconciliation :=
  let a := attempt c pod
  a.reconciled c pod (a.sawShutdown c)

def reconcile (c : Circumstances) (pod : Pod) : Reconciliation :=
  let later : Except Failure Action := .ok (.requeue c.requeueDelay)
  match pod.gateState with
  | .notGated => { acts := [], result := .ok .awaitChange }
  | .alreadyReady =>
    { acts := [podEvent .debug pod "warmup condition already True, skipping"]
      result := .ok .awaitChange }
  | .notRunning phase =>
    { acts := [podEvent .debug pod "pod not in Running phase, requeuing" [("phase", .shown phase)]]
      result := later }
  | .containersNotReady =>
    { acts := [podEvent .debug pod "containers not ready, requeuing"], result := later }
  | .containersReadyPending =>
    { acts := [podEvent .debug pod "ContainersReady condition not True, requeuing"]
      result := later }
  | .ready => warmUp c pod

/-- When a pod is looked at again after a failure, and what is said about it. -/
def retry (pod : Pod) (failure : Failure) (delay : Span) : Act × Action :=
  (podEvent .warn pod ("reconcile failed, retrying in " ++ delay.text)
      [("error", .shown failure.message)],
    .requeue delay)

end WarmupGate.Controller
