import WarmupGate.Controller.Episode
import WarmupGate.Proofs.Controller.Recording

/-!
# What an episode tells

An episode with a run tells that the pod is pending, what the run tells, the result of the run and
its requests, and that the pod is not pending any more. An episode without one tells nothing at all.
What it writes and publishes is not looked at here.
-/
namespace WarmupGate.Controller
open Warmup

theorem Circumstances.plan?_eq_some_iff {c : Circumstances} {pod : Pod} {plan : Plan} :
    c.plan? pod = some plan ↔ Executes c pod plan := by
  unfold Circumstances.plan? Executes
  split
  · rename_i resolved ready resolves
    rw [ready, resolves]
    cases c.executor.skips <;> simp
  · rename_i unready
    simp only [reduceCtorEq, false_iff]
    rintro ⟨ready, resolves, -⟩
    exact unready plan ready resolves

/-- A look runs nothing if the pod is not ready, if it has no plan, or if runs are skipped. -/
theorem Circumstances.plan?_eq_none_iff {c : Circumstances} {pod : Pod} :
    c.plan? pod = none ↔ pod.gateState ≠ .ready ∨
      (∃ fault, Plan.resolve pod = .error fault) ∨ c.executor.skips = true := by
  by_cases ready : pod.gateState = .ready
  · cases resolves : Plan.resolve pod with
    | error fault => simp [Circumstances.plan?, ready, resolves]
    | ok plan =>
      cases skips : c.executor.skips <;> simp [Circumstances.plan?, ready, resolves, skips]
  · simp only [ne_eq, ready, not_false_eq_true, true_or, iff_true]
    unfold Circumstances.plan?
    split
    · exact absurd ‹_› ready
    · rfl

/-- An act that tells no sample and starts no run. -/
def Act.silent : Act → Bool
  | .measure _ => false
  | .execute _ => false
  | _ => true

theorem samples_of_silent {acts : List Act} (h : ∀ a ∈ acts, a.silent = true) :
    acts.filterMap Act.sample? = [] := by
  rw [List.filterMap_eq_nil_iff]
  intro a member
  have silent := h a member
  cases a <;> simp_all [Act.silent, Act.sample?]

theorem silent_conclude (c : Circumstances) (pod : Pod) (shuttingDown : Bool) (outcome : Outcome) :
    ∀ a ∈ (conclude c pod shuttingDown outcome).1, a.silent = true := by
  intro a member
  unfold conclude at member
  split at member
  · simp at member; subst member; rfl
  · unfold record at member
    split at member
    · simp only [List.mem_cons] at member
      rcases member with rfl | rfl | member
      · rfl
      · rfl
      · obtain ⟨event, rfl⟩ := exists_log_of_mem_closing member
        rfl
    · split at member <;> simp at member <;> rcases member with rfl | rfl <;> rfl

/-- An attempt that runs no plan says so, and does nothing else. -/
theorem silent_attempt {c : Circumstances} {pod : Pod} (ready : pod.gateState = .ready)
    (idle : c.plan? pod = none) : ∀ a ∈ (attempt c pod).acts, a.silent = true := by
  intro a member
  rcases attempt_cases c pod with ⟨fault, h⟩ | ⟨plan, h, hs⟩ | ⟨plan, h, hs⟩
  · rw [(attempt_of_error h).2] at member
    simp at member; subst member; rfl
  · rw [(attempt_of_skips h hs).2] at member
    simp at member; subst member; rfl
  · have runs := Circumstances.plan?_eq_some_iff.2 (show Executes c pod plan from ⟨ready, h, hs⟩)
    cases idle.symm.trans runs

theorem silent_reconcile {c : Circumstances} {pod : Pod} (idle : c.plan? pod = none) :
    ∀ a ∈ (reconcile c pod).acts, a.silent = true := by
  intro a member
  by_cases ready : pod.gateState = .ready
  · rw [reconcile_of_ready ready, Attempt.reconciled] at member
    simp only [List.mem_append] at member
    rcases member with (member | member) | member
    · obtain ⟨event, rfl⟩ := exists_log_of_mem_opening member
      rfl
    · exact silent_attempt ready idle a member
    · exact silent_conclude c pod _ _ a member
  · obtain ⟨event, rfl⟩ := exists_log_of_mem_reconcile ready member
    rfl

namespace Episode

variable {e : Episode} {plan : Plan}

theorem acts_of_plan (runs : e.plan? = some plan) :
    ∃ before behind, (∀ a ∈ before, a.silent = true) ∧ (∀ a ∈ behind, a.silent = true) ∧
      e.outcome.acts = before ++ (Attempt.ofTrial e.pod plan (e.trial plan)).acts ++ behind := by
  refine ⟨opening e.pod,
    (conclude e.circumstances e.pod e.raised (.executed (e.trial plan).report)).1,
    fun a member => ?_, silent_conclude e.circumstances e.pod e.raised _, ?_⟩
  · obtain ⟨event, rfl⟩ := exists_log_of_mem_opening member
    rfl
  · rw [outcome, runs]
    rfl

theorem silent_outcome (idle : e.plan? = none) : ∀ a ∈ e.outcome.acts, a.silent = true := by
  rw [outcome, idle]
  exact silent_reconcile idle

theorem samples_of_plan (runs : e.plan? = some plan) :
    e.outcome.samples = .pendingUp plan.ns e.pod.node :: (e.trial plan).samples ++
      [.runResult plan.ns (e.trial plan).report.success (e.trial plan).report.elapsed,
        .runRequests plan.ns (e.trial plan).report.total, .pendingDown plan.ns e.pod.node] := by
  obtain ⟨before, behind, front, back, acts⟩ := acts_of_plan runs
  have events : ((e.trial plan).events.map Act.log).filterMap Act.sample? = [] := by
    simp [List.filterMap_map, Function.comp_def, Act.sample?]
  have samples : ((e.trial plan).samples.map Act.measure).filterMap Act.sample? =
      (e.trial plan).samples := by
    simp [List.filterMap_map, Function.comp_def, Act.sample?]
  rw [Reconciliation.samples, acts, List.filterMap_append, List.filterMap_append,
    samples_of_silent front, samples_of_silent back, Attempt.ofTrial]
  simp [Act.sample?, List.filterMap_cons, events, samples]

theorem samples_of_idle (idle : e.plan? = none) : e.outcome.samples = [] :=
  samples_of_silent (silent_outcome idle)

theorem outcome_ofLook (c : Circumstances) (pod : Pod) :
    (ofLook c pod).outcome = reconcile c pod := by
  cases runs : c.plan? pod with
  | none => rw [outcome, show (ofLook c pod).plan? = none from runs]; rfl
  | some plan =>
    obtain ⟨ready, resolves, skips⟩ := Circumstances.plan?_eq_some_iff.1 runs
    rw [outcome, show (ofLook c pod).plan? = some plan from runs, reconcile_of_ready ready,
      attempt_of_runs resolves skips]
    simp only [ofLook, attempt_of_runs resolves skips]

end Episode

namespace Waiting

def served : Burst Unit :=
  ((Burst.start 1).dispatch ()).finish [] [] 0 { latency := .ofMillis 3, status := some 200 }

/-- A look at the pod whose run sends its one request. -/
def visiting : Episode :=
  { circumstances :=
      { executor := .sending
        target := fun _ => {}
        now := ⟨"2024-05-01T10:00:00Z"⟩
        requeueDelay := .ofSeconds 5 }
    pod
    trial := fun plan =>
      { report := Trial.reportOf served.tally (.ofMillis 3) .complete
        samples := [.requestLatency plan.ns (.ofMillis 3)] }
    raised := false }

theorem plan?_visiting : visiting.plan? = some plan := by rfl

end Waiting
end WarmupGate.Controller
