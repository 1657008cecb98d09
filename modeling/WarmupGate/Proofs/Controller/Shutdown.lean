import WarmupGate.Proofs.Controller.Recording
import WarmupGate.Proofs.Warmup.Execution

/-!
# Shutdown and the record

Shutdown reaches a pod twice: its flag cancels the scope of the run, and it is read again when the
run has ended. The two agree whenever the flag is raised, between any two steps of the run or after
it: a report of the cancellation is never recorded, and every other report is, also when the flag is
up by then. Which of the two a run ends in is not decided here.
-/
namespace WarmupGate.Controller
open Warmup

/-- A report of a cancellation from outside comes with the flag raised and leaves no trace at the
cluster; any other report is written. -/
structure Settles (pod : Pod) (now : Timestamp) (report : Report) (raised : Bool)
    (r : Reconciliation) : Prop where
  withheld : report.error = some (.cancelled .canceled) →
    raised = true ∧ r.writes = [] ∧ r.notices = [] ∧ r.result = .ok .awaitChange
  written : report.error ≠ some (.cancelled .canceled) →
    r.writes =
      [Condition.upsert pod.status.conditions
        { type := Pod.Key.warmupReady
          status := "True"
          reason := some (if report.success then "WarmupComplete" else "WarmupFailedOpen")
          message := some (if report.success then report.message
            else "Warmup failed but pod marked ready (fail-open): " ++ report.message)
          lastTransition := some now }]

theorem recorded_executed (pod : Pod) (report : Report) (now : Timestamp) :
    recorded pod (.executed report) now =
      Condition.upsert pod.status.conditions
        { type := Pod.Key.warmupReady
          status := "True"
          reason := some (if report.success then "WarmupComplete" else "WarmupFailedOpen")
          message := some (if report.success then report.message
            else "Warmup failed but pod marked ready (fail-open): " ++ report.message)
          lastTransition := some now } := by
  cases success : report.success <;>
    · simp only [recorded, Outcome.condition, Outcome.reason, Outcome.message, Reason.condition,
        success]
      rfl

theorem cancelled_executed (report : Report) :
    (Outcome.executed report).cancelled = true ↔
      report.error = some (.cancelled .canceled) := by
  simp [Outcome.cancelled, Outcome.report?]

theorem conclude_of_withheld (c : Circumstances) (pod : Pod) {outcome : Outcome}
    (h : outcome.cancelled = true) :
    (conclude c pod true outcome).1.filterMap Act.written? = [] ∧
      (conclude c pod true outcome).1.filterMap Act.notice? = [] ∧
      (conclude c pod true outcome).2 = .ok .awaitChange := by
  simp [conclude, h, podEvent, Act.written?, Act.notice?]

theorem settles_reconciled {c : Circumstances} {pod : Pod} {plan : Plan} {trial : Trial}
    {raised : Bool} (backed : trial.report.error = some (.cancelled .canceled) → raised = true) :
    Settles pod c.now trial.report raised
      ((Attempt.ofTrial pod plan trial).reconciled c pod raised) := by
  obtain ⟨writes, notices⟩ := writes_reconciled (unseen_ofTrial pod plan trial) c pod raised
  constructor
  · intro error
    obtain rfl := backed error
    rw [writes, notices]
    exact ⟨rfl, conclude_of_withheld c pod ((cancelled_executed trial.report).2 error)⟩
  · intro error
    have kept : (Outcome.executed trial.report).cancelled = false := by
      simpa using fun h => error ((cancelled_executed trial.report).1 h)
    have outcome : (Attempt.ofTrial pod plan trial).outcome = .executed trial.report := rfl
    rw [writes, (acts_conclude c pod raised _).1, outcome, kept, Bool.and_false,
      ← recorded_executed]
    rfl

/-- Shutdown has begun by the end of a run on the clock that reports its cancellation. -/
theorem sawShutdown_of_report {c : Circumstances} {pod : Pod} {plan : Plan}
    (sends : c.executor = .sending)
    (error : (c.trial plan).report.error = some (.cancelled .canceled)) :
    (Attempt.ofTrial pod plan (c.trial plan)).sawShutdown c = true := by
  obtain ⟨e, reached, ended, raised⟩ :=
    Trial.exists_execution plan ⟨some plan.window, c.shutdownAt⟩ c.target
  have trial := c.trial_of_sending sends plan
  rw [trial] at error
  rw [Attempt.sawShutdown, Attempt.ofTrial, trial, ← raised]
  exact Execution.cancelled_of_report reached ended error

/-- Whenever shutdown begins, a run of a pod that is ready for its warmup settles: if it reports a
cancellation then the flag is up at the look that follows, and nothing is written or published;
any other report is written. This holds of every order in which the run, its deadline and the flag
can move, and of every run on the clock. So no write is about a run that shutdown cancelled, and
before the write the pod's own gate is closed. -/
theorem gate_follows_shutdown {α : Type} {c : Circumstances} {pod : Pod} {plan : Plan}
    (ready : pod.gateState = .ready) (planned : Plan.resolve pod = .ok plan)
    (sends : c.executor = .sending) :
    (∀ (e : Execution α) (trial : Trial), Execution.Reachable plan e →
        e.stage = .ended trial.report →
        Settles pod c.now trial.report e.watch.cancelled
          ((Attempt.ofTrial pod plan trial).reconciled c pod e.watch.cancelled)) ∧
      Settles pod c.now (c.trial plan).report ((attempt c pod).sawShutdown c) (reconcile c pod) ∧
      ((reconcile c pod).writes ≠ [] →
        (c.trial plan).report.error ≠ some (.cancelled .canceled)) ∧
      pod.conditionHolds Pod.Key.warmupReady = false := by
  have settled : Settles pod c.now (c.trial plan).report ((attempt c pod).sawShutdown c)
      (reconcile c pod) := by
    rw [reconcile_of_ready ready, attempt_of_runs planned (congrArg Executor.skips sends)]
    exact settles_reconciled (sawShutdown_of_report sends)
  refine ⟨fun e trial reached ended => ?_, settled, ?_, Pod.closed_of_ready ready⟩
  · exact settles_reconciled (Execution.cancelled_of_report reached ended)
  · intro writes error
    exact writes (settled.withheld error).2.1

namespace Waiting

def leaving : Circumstances :=
  { executor := .sending
    target := fun _ => {}
    shutdownAt := some 0
    now := ⟨"2024-05-01T10:00:00Z"⟩
    requeueDelay := .ofSeconds 5 }

def sent : Burst Unit := (Burst.start plan.requests).dispatch ()

/-- It was answered before shutdown was noticed. -/
def answered : Report :=
  Trial.reportOf (sent.finish [] [] 0 { status := some 200, latency := .zero }).tally .zero
    .complete

def interrupted : Report := Trial.reportOf sent.tally .zero (.stopped .canceled)

theorem reachable_sent : Execution.Reachable plan ⟨{}, .running { burst := sent }⟩ :=
  (Execution.Reachable.start.step (.enter rfl rfl)).turn rfl ⟨.dispatch () rfl (by decide), rfl⟩

theorem reachable_answered :
    Execution.Reachable plan (⟨{ cancelled := true }, .ended answered⟩ : Execution Unit) := by
  have ended : Execution.Reachable plan _ :=
    reachable_sent.turn rfl ⟨.finish { status := some 200, latency := .zero } rfl rfl, rfl⟩
  exact (ended.step (.cancel {} _)).step (.leave .zero rfl rfl)

theorem reachable_interrupted :
    Execution.Reachable plan (⟨{ cancelled := true }, .ended interrupted⟩ : Execution Unit) := by
  have raised : Execution.Reachable plan _ := reachable_sent.step (.cancel {} _)
  have ends : Watch.MayEnd { cancelled := true } .canceled := rfl
  exact (raised.stop rfl ends).step (.leave .zero rfl rfl)

/-- Under the same raised flag the finished run is written and the interrupted one is not. -/
theorem gate_follows_shutdown_while_waiting :
    pod.gateState = .ready ∧ Plan.resolve pod = .ok plan ∧ leaving.executor = .sending ∧
      ((Attempt.ofTrial pod plan { report := answered }).reconciled leaving pod true).writes =
        [recorded pod (.executed answered) leaving.now] ∧
      ((Attempt.ofTrial pod plan { report := interrupted }).reconciled leaving pod true).writes =
        [] := by
  obtain ⟨law, -⟩ := @gate_follows_shutdown Unit leaving pod plan rfl rfl rfl
  refine ⟨rfl, rfl, rfl, ?_, ?_⟩
  · rw [recorded_executed]
    exact (law _ { report := answered } reachable_answered rfl).written (nomatch ·)
  · exact ((law _ { report := interrupted } reachable_interrupted rfl).withheld rfl).2.1

end Waiting

end WarmupGate.Controller
