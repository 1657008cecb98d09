import WarmupGate.Controller.Reconcile
import WarmupGate.Proofs.Pod.Condition

/-!
# The fail-open law

A pod that is ready for its warmup is let through exactly once, whatever the warmup came to: a wrong
annotation, a run that failed and a run that was switched off all end in the same write, and only
reason and message differ. The one exception is a run that shutdown has cut short, which is left to
the next controller. Nothing is said here about how long a run takes.
-/
namespace WarmupGate.Controller
open Warmup

theorem Circumstances.trial_of_sending {c : Circumstances} (sending : c.executor = .sending)
    (plan : Plan) : c.trial plan = Trial.run plan ⟨some plan.window, c.shutdownAt⟩ c.target := by
  rw [trial, sending, Executor.run]

/-- The pod is warmed up by a run of this plan. -/
def Executes (c : Circumstances) (pod : Pod) (plan : Plan) : Prop :=
  pod.gateState = .ready ∧ Plan.resolve pod = .ok plan ∧ c.executor.skips = false

/-- The run was cancelled from outside, and shutdown has begun by its end. -/
def Withheld (c : Circumstances) (pod : Pod) : Prop :=
  ∃ plan, Plan.resolve pod = .ok plan ∧ c.executor.skips = false ∧
    (c.trial plan).report.error = some (.cancelled .canceled) ∧
    ∃ moment, c.shutdownAt = some moment ∧ moment ≤ (c.trial plan).lasted

theorem attempt_of_error {c : Circumstances} {pod : Pod} {fault : Plan.Fault}
    (h : Plan.resolve pod = .error fault) :
    (attempt c pod).outcome = .unplanned fault ∧
      (attempt c pod).acts =
        [podEvent .error pod "failed to resolve warmup config"
          [("error", .shown fault.message)]] := by
  simp [attempt, h]

theorem attempt_of_skips {c : Circumstances} {pod : Pod} {plan : Plan}
    (h : Plan.resolve pod = .ok plan) (hs : c.executor.skips = true) :
    (attempt c pod).outcome = .skipped ∧
      (attempt c pod).acts = [podEvent .info pod Warmup.Executor.skippedMessage] := by
  simp [attempt, h, hs]

theorem attempt_of_runs {c : Circumstances} {pod : Pod} {plan : Plan}
    (h : Plan.resolve pod = .ok plan) (hs : c.executor.skips = false) :
    attempt c pod = .ofTrial pod plan (c.trial plan) := by
  simp [attempt, h, hs]

theorem attempt_cases (c : Circumstances) (pod : Pod) :
    (∃ fault, Plan.resolve pod = .error fault) ∨
      (∃ plan, Plan.resolve pod = .ok plan ∧ c.executor.skips = true) ∨
      ∃ plan, Plan.resolve pod = .ok plan ∧ c.executor.skips = false := by
  cases h : Plan.resolve pod with
  | error fault => exact .inl ⟨fault, rfl⟩
  | ok plan =>
    cases hs : c.executor.skips with
    | true => exact .inr (.inl ⟨plan, rfl, rfl⟩)
    | false => exact .inr (.inr ⟨plan, rfl, rfl⟩)

/-- The flag and the outcome that keep an attempt from being recorded, in terms of its run. -/
theorem withheld_iff (c : Circumstances) (pod : Pod) :
    ((attempt c pod).sawShutdown c && (attempt c pod).outcome.cancelled) = true ↔
      Withheld c pod := by
  rcases attempt_cases c pod with ⟨fault, h⟩ | ⟨plan, h, hs⟩ | ⟨plan, h, hs⟩
  · simp [Withheld, h, (attempt_of_error h).1, Outcome.cancelled, Outcome.report?]
  · simp [Withheld, h, hs, (attempt_of_skips h hs).1, Outcome.cancelled, Outcome.report?]
  · simp [Withheld, h, hs, attempt_of_runs h hs, Attempt.ofTrial, Attempt.sawShutdown,
      Outcome.cancelled, Outcome.report?, Option.any_eq_true, and_comm]

/-- An act that neither starts a run nor reaches the cluster. -/
def Act.quiet : Act → Bool
  | .log _ => true
  | .measure _ => true
  | _ => false

theorem filterMap_of_quiet {acts : List Act} (h : ∀ a ∈ acts, a.quiet = true) :
    acts.filterMap Act.plan? = [] ∧ acts.filterMap Act.written? = [] ∧
      acts.filterMap Act.notice? = [] := by
  simp only [List.filterMap_eq_nil_iff]
  refine ⟨?_, ?_, ?_⟩ <;>
  · intro a ha
    have := h a ha
    cases a <;> simp_all [Act.quiet, Act.plan?, Act.written?, Act.notice?]

theorem exists_log_of_mem_opening {pod : Pod} {a : Act} (ha : a ∈ opening pod) :
    ∃ event, a = .log event := by
  unfold opening at ha
  split at ha <;> simp at ha <;> rcases ha with rfl | rfl <;> exact ⟨_, rfl⟩

theorem exists_log_of_mem_closing {pod : Pod} {outcome : Outcome} {a : Act}
    (ha : a ∈ closing pod outcome) : ∃ event, a = .log event := by
  unfold closing at ha
  split at ha
  · simp at ha; exact ⟨_, ha⟩
  · split at ha <;> simp at ha <;> exact ⟨_, ha⟩
  · simp at ha

theorem quiet_opening (pod : Pod) : ∀ a ∈ opening pod, a.quiet = true := by
  intro a ha
  obtain ⟨event, rfl⟩ := exists_log_of_mem_opening ha
  rfl

theorem quiet_closing (pod : Pod) (outcome : Outcome) :
    ∀ a ∈ closing pod outcome, a.quiet = true := by
  intro a ha
  obtain ⟨event, rfl⟩ := exists_log_of_mem_closing ha
  rfl

theorem exists_acts_ofTrial (pod : Pod) (plan : Plan) (trial : Trial) :
    ∃ rest, (Attempt.ofTrial pod plan trial).acts =
        .measure (.pendingUp plan.ns pod.node) :: .execute plan :: rest ∧
      ∀ a ∈ rest, a.quiet = true := by
  refine ⟨_, rfl, ?_⟩
  intro a ha
  simp only [List.mem_append, List.mem_map, List.mem_cons, List.not_mem_nil, or_false] at ha
  rcases ha with (⟨e, -, rfl⟩ | ⟨s, -, rfl⟩) | rfl | rfl | rfl <;> rfl

/-- The attempt writes and publishes nothing by itself. -/
def Attempt.Unseen (a : Attempt) : Prop :=
  a.acts.filterMap Act.written? = [] ∧ a.acts.filterMap Act.notice? = []

theorem unseen_ofTrial (pod : Pod) (plan : Plan) (trial : Trial) :
    (Attempt.ofTrial pod plan trial).Unseen := by
  obtain ⟨rest, acts, quiet⟩ := exists_acts_ofTrial pod plan trial
  obtain ⟨-, writes, notices⟩ := filterMap_of_quiet quiet
  rw [Attempt.Unseen, acts]
  exact ⟨writes, notices⟩

theorem unseen_attempt (c : Circumstances) (pod : Pod) : (attempt c pod).Unseen := by
  rcases attempt_cases c pod with ⟨fault, h⟩ | ⟨plan, h, hs⟩ | ⟨plan, h, hs⟩
  · rw [Attempt.Unseen, (attempt_of_error h).2]
    exact ⟨rfl, rfl⟩
  · rw [Attempt.Unseen, (attempt_of_skips h hs).2]
    exact ⟨rfl, rfl⟩
  · rw [attempt_of_runs h hs]
    exact unseen_ofTrial pod plan _

theorem acts_record (c : Circumstances) (pod : Pod) (outcome : Outcome) :
    (record c pod outcome).1.filterMap Act.written? = [recorded pod outcome c.now] ∧
      (record c pod outcome).1.filterMap Act.plan? = [] := by
  obtain ⟨plans, writes, -⟩ := filterMap_of_quiet (quiet_closing pod outcome)
  unfold record
  split
  · exact ⟨congrArg (List.cons _) writes, plans⟩
  · split <;> exact ⟨rfl, rfl⟩

/-- An outcome is written unless shutdown has cut it short. -/
theorem acts_conclude (c : Circumstances) (pod : Pod) (shuttingDown : Bool) (outcome : Outcome) :
    (conclude c pod shuttingDown outcome).1.filterMap Act.written? =
        (if shuttingDown && outcome.cancelled then [] else [recorded pod outcome c.now]) ∧
      (conclude c pod shuttingDown outcome).1.filterMap Act.plan? = [] := by
  unfold conclude
  split
  · exact ⟨rfl, rfl⟩
  · exact acts_record c pod outcome

theorem writes_reconciled {a : Attempt} (unseen : a.Unseen) (c : Circumstances) (pod : Pod)
    (shuttingDown : Bool) :
    (a.reconciled c pod shuttingDown).writes =
        (conclude c pod shuttingDown a.outcome).1.filterMap Act.written? ∧
      (a.reconciled c pod shuttingDown).notices =
        (conclude c pod shuttingDown a.outcome).1.filterMap Act.notice? := by
  obtain ⟨-, writes, notices⟩ := filterMap_of_quiet (quiet_opening pod)
  simp only [Reconciliation.writes, Reconciliation.notices, Attempt.reconciled,
    List.filterMap_append, writes, notices, unseen.1, unseen.2, List.nil_append, and_self]

theorem exists_log_of_mem_reconcile {c : Circumstances} {pod : Pod} (h : pod.gateState ≠ .ready)
    {a : Act} (ha : a ∈ (reconcile c pod).acts) : ∃ event, a = .log event := by
  unfold reconcile at ha
  split at ha <;> simp at ha <;> first | contradiction | exact ⟨_, ha⟩

theorem quiet_reconcile {c : Circumstances} {pod : Pod} (h : pod.gateState ≠ .ready) :
    ∀ a ∈ (reconcile c pod).acts, a.quiet = true := by
  intro a ha
  obtain ⟨event, rfl⟩ := exists_log_of_mem_reconcile h ha
  rfl

theorem reconcile_of_ready {c : Circumstances} {pod : Pod} (ready : pod.gateState = .ready) :
    reconcile c pod = (attempt c pod).reconciled c pod ((attempt c pod).sawShutdown c) := by
  simp [reconcile, ready, warmUp]

theorem writes_reconcile_cases (c : Circumstances) (pod : Pod) :
    (pod.gateState = .ready ∧ ¬ Withheld c pod ∧
        (reconcile c pod).writes = [recorded pod (attempt c pod).outcome c.now]) ∨
      (¬ (pod.gateState = .ready ∧ ¬ Withheld c pod) ∧ (reconcile c pod).writes = []) := by
  by_cases ready : pod.gateState = .ready
  · have withheld := withheld_iff c pod
    rw [reconcile_of_ready ready, (writes_reconciled (unseen_attempt c pod) c pod _).1,
      (acts_conclude c pod _ _).1]
    by_cases h : Withheld c pod
    · exact .inr ⟨fun k => k.2 h, by rw [if_pos (withheld.2 h)]⟩
    · exact .inl ⟨ready, h, by rw [if_neg (fun k => h (withheld.1 k))]⟩
  · exact .inr ⟨fun k => ready k.1, (filterMap_of_quiet (quiet_reconcile ready)).2.1⟩

namespace Waiting

/-- A pod that waits for a warmup of one request. -/
def pod : Pod :=
  { metadata :=
      { name := some "api-0"
        ns := some "shop"
        annotations := [(Pod.Key.requests, "1")] }
    spec := { containers := [{ name := "api", ports := [8080] }], gates := [Pod.Key.gate] }
    status :=
      { phase := some Pod.Key.running
        address := some "10.0.0.1"
        containers := [{ name := "api", ready := true }]
        conditions := [{ type := Pod.Key.containersReady, status := "True" }] } }

def plan : Plan :=
  { requests := 1, port := 8080, address := some "10.0.0.1", podName := "api-0", ns := "shop" }

example : pod.gateState = .ready := by rfl
example : Plan.resolve pod = .ok plan := by rfl

end Waiting

end WarmupGate.Controller
