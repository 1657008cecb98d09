import WarmupGate.Proofs.Controller.Recording
import WarmupGate.Proofs.Warmup.Happenings
import WarmupGate.Proofs.Warmup.Schedule

/-!
# Runs end by their deadline

Whatever a target does, a run in a scope with a deadline ends, and at the latest in the millisecond
in which its deadline comes. If the loop has not ended by itself by then, the run is reported as
cancelled. This holds in every order of the things that fall on one millisecond. Nothing is said
here about how much of the time that is left a run uses. A schedule that leaves a second for each
request leaves every request its full time before the deadline; that is said of the exact instants
and not of the clock of whole milliseconds.
-/
namespace WarmupGate.Warmup

variable {p : Plan} {limits : Limits} {target : Target} {trial : Trial}

namespace Trial

/-- A run was cut short by the end of its scope, and is reported so. -/
def IsCut (trial : Trial) : Prop :=
  trial.report.success = false ∧ ∃ cause, trial.report.error = some (.cancelled cause)

theorem isCut_stopped (p : Plan) (address : String) (t : Timeline) (cause : Cause) :
    (ofEnd p address (t, .stopped cause)).IsCut := ⟨rfl, cause, rfl⟩

/-- A run with a deadline lasts until then at most. If it was not cut short, its loop has ended by
itself, as it may without limits. -/
theorem MayBring.bounded (h : MayBring p limits target trial) {d : Span}
    (deadline : limits.deadline = some d) :
    trial.report.elapsed ≤ .ofMillis d.ceilMillis ∧
      (trial.IsCut ∨ MayBring p {} target trial ∧ trial.lasted ≤ d.ceilMillis) := by
  cases h with
  | addressMissing missing =>
    exact ⟨Nat.zero_le _, .inr ⟨.addressMissing missing, Nat.zero_le _⟩⟩
  | overAtStart found past => exact ⟨Nat.zero_le _, .inl ⟨rfl, _, rfl⟩⟩
  | @ran address ending t e found live allows reached ends =>
    obtain ⟨last, some, le⟩ := allows.exists_le deadline
    have now : e.1.now ≤ d.ceilMillis := Nat.le_trans (ends.now_le reached some) le
    have elapsed : (ofEnd p address e).report.elapsed = .ofMillis e.1.now := elapsed_reportOf ..
    rw [elapsed]
    refine ⟨Nat.mul_le_mul_right _ now, ?_⟩
    obtain ⟨u, finish⟩ := e
    -- only a stop needs the scope; any other end may come without it
    cases finish with
    | stopped cause => exact .inl (isCut_stopped p address u cause)
    | complete =>
      have ends := ends.free fun _ => (nomatch ·)
      exact .inr ⟨.ran found rfl (.none rfl rfl) reached.free ends, now⟩
    | overflowed =>
      have ends := ends.free fun _ => (nomatch ·)
      exact .inr ⟨.ran found rfl (.none rfl rfl) reached.free ends, now⟩

/-- Every run of a plan ends within a number of milliseconds, and is reported as cut short if its
loop has not ended by then. -/
structure EndsBy (bound : Nat) (p : Plan) (limits : Limits) (target : Target) : Prop where
  halts : ∀ address ending, Timeline.Halts ((course p address {} target).until ending)
  brings : MayBring p limits target (run p limits target)
  elapsed_le : ∀ trial, MayBring p limits target trial → trial.report.elapsed ≤ .ofMillis bound
  /-- A run that is not cut short is one that may take place without limits and ends in time. -/
  cut : ∀ trial, MayBring p limits target trial →
    ¬ (MayBring p {} target trial ∧ trial.lasted ≤ bound) → trial.IsCut
  /-- Where the loop is neither over nor broken down in time, the run is cut short. -/
  running : ∀ address ending t e, limits.Allows ending →
    Timeline.Reachable ((course p address {} target).until ending) t →
    Timeline.Ends ((course p address {} target).until ending) t e →
    ¬ ((t.burst.running = false ∨ e.2 = .overflowed) ∧ e.1.now ≤ bound) →
    (ofEnd p address e).IsCut

theorem isCut_of_running {c : Course} {address : String} {t : Timeline} {e : Timeline × Finish}
    (ends : Timeline.Ends c t e) (atWork : ¬ (t.burst.running = false ∨ e.2 = .overflowed)) :
    (ofEnd p address e).IsCut := by
  cases ends with
  | complete finished => exact absurd (.inl finished) atWork
  | stop => exact isCut_stopped ..
  | told => exact isCut_stopped ..
  | breakDown => exact absurd (.inr rfl) atWork

theorem endsBy_ceilMillis (p : Plan) (target : Target) {d : Span}
    (deadline : limits.deadline = some d) : EndsBy d.ceilMillis p limits target where
  halts _ _ := Timeline.halts _
  brings := mayBring_run p limits target
  elapsed_le _ h := (h.bounded deadline).1
  cut _ h late := (h.bounded deadline).2.resolve_right late
  running address ending t e allows reached ends late := by
    obtain ⟨last, some, le⟩ := allows.exists_le deadline
    have now : e.1.now ≤ d.ceilMillis := Nat.le_trans (ends.now_le reached some) le
    exact isCut_of_running ends fun finished => late ⟨finished, now⟩

end Trial
end WarmupGate.Warmup

namespace WarmupGate.Controller
open Warmup

/-- The time that is left from a whole millisecond on, rounded up, ends in the first whole millisecond
in which a timer that is set to the deadline can fire. -/
theorem add_ceilMillis_remaining {f : Forest} {start : Nat} (whole : f.now = .ofMillis start)
    (d : Span) : start + (f.remaining d).ceilMillis = max start d.ceilMillis := by
  rw [Forest.remaining, whole]
  simp only [Span.ceilMillis, Span.ofMillis]
  omega

/-- A run in a scope with a deadline, which starts in a whole millisecond like all that is done,
ends, whatever the target does and in whatever order things happen, and it lasts no longer than the
time that was left, rounded up to a millisecond; a run whose loop has not ended by then is reported
as cancelled. It is refused at once exactly if the scope is over. A run for a pod lasts no longer
than the window of its plan, rounded up. -/
theorem run_ends_by_deadline (f : Forest) (s : Scope) {d : Span} (deadline : s.deadline = some d)
    {start : Nat} (whole : f.now = .ofMillis start) (p : Plan) (target : Target) :
    (∀ cancelAt, Trial.EndsBy (f.remaining d).ceilMillis p (f.limits s cancelAt) target) ∧
      start + (f.remaining d).ceilMillis = max start d.ceilMillis ∧
      (∀ cancelAt, cancelAt ≠ some 0 → (f.limits s cancelAt).overAtStart = f.err s) ∧
      ∀ c : Circumstances, c.executor = .sending →
        Trial.EndsBy p.window.ceilMillis p ⟨some p.window, c.shutdownAt⟩ c.target ∧
          (c.trial p).report.elapsed ≤ .ofMillis p.window.ceilMillis := by
  refine ⟨fun cancelAt => ?_, add_ceilMillis_remaining whole d,
    fun cancelAt later => f.overAtStart_limits s later, fun c sending => ?_⟩
  · have left : (f.limits s cancelAt).deadline = some (f.remaining d) :=
      congrArg (Option.map f.remaining) deadline
    exact Trial.endsBy_ceilMillis p target left
  · have ends := Trial.endsBy_ceilMillis p c.target
      (show (⟨some p.window, c.shutdownAt⟩ : Limits).deadline = some p.window from rfl)
    rw [Circumstances.trial_of_sending sending]
    exact ⟨ends, ends.elapsed_le _ ends.brings⟩

namespace Unanswered

/-- A scope that is still open, and ends half a microsecond behind a whole millisecond. -/
def forest : Forest :=
  { clock := 7000000, signals := [⟨true, false⟩], scopes := [⟨0, some ⟨1007000500⟩⟩] }

def scope : Scope := ⟨0, some ⟨1007000500⟩⟩

def plan : Plan := { requests := 1, port := 8080, address := some "10.0.0.1" }

def target : Target := fun _ => { breakdown := some .silent }

/-- The one request may take ten seconds, but the run is over within the second that is left. -/
theorem run_ends_by_deadline_unanswered :
    scope.deadline = some ⟨1007000500⟩ ∧ forest.now = .ofMillis 7 ∧ forest.err scope = none ∧
      plan.requestTimeout = .ofSeconds 10 ∧
      (Trial.run plan (forest.limits scope none) target).report.elapsed ≤ .ofMillis 1001 := by
  have whole : forest.now = .ofMillis 7 := rfl
  obtain ⟨ends, -, -, -⟩ := run_ends_by_deadline forest scope rfl whole plan target
  exact ⟨rfl, whole, rfl, rfl, (ends none).elapsed_le _ (ends none).brings⟩

end Unanswered

/-- A request of a pod has as much time as its part of the window is long, rounded down to the
nanosecond, but a second at least and ten at most; this is never more than the window. If the window
has a second for each request, every request that is sent when it is due has its full time within
the window, and the window is the deadline of the run. -/
theorem requests_have_full_time {pod : Pod} {p : Plan}
    (resolved : Plan.resolve? (some pod) = .ok p) :
    p.requestTimeout.nanos =
        max 1000000000 (min 10000000000 ⌊(p.window.nanos : ℚ) / p.requests⌋₊) ∧
      p.requestTimeout.nanos ≤ min 10000000000 p.window.nanos ∧
      (p.requests * 1000000000 ≤ p.window.nanos → ∀ k < p.requests,
        (p.offset k).nanos + p.requestTimeout.nanos ≤ p.window.nanos) ∧
      ∀ c : Circumstances, c.executor = .sending → ∃ limits : Limits,
        c.trial p = Trial.run p limits c.target ∧ limits.deadline = some p.window := by
  have bounds := (Plan.resolve_eq_ok_iff.1 resolved).inBounds
  refine ⟨?_, bounds.requestTimeout_le, fun long k room => ?_, fun c sending => ?_⟩
  · rw [p.nanos_requestTimeout bounds.requests.1, Nat.floor_div_eq_div]
  · calc (p.offset k).nanos + p.requestTimeout.nanos
        ≤ (p.offset (k + 1)).nanos := bounds.offset_add_requestTimeout_le room long
      _ = p.window.nanos * (k + 1) / p.requests := bounds.offset_eq room
      _ ≤ p.window.nanos := p.part_le room
  · exact ⟨_, Circumstances.trial_of_sending sending p, rfl⟩

namespace Tight

/-- A pod whose requests have parts of the window that are no whole number of nanoseconds. -/
def pod : Pod :=
  { metadata := { annotations := [(Pod.Key.requests, "7"), (Pod.Key.port, "8080")] } }

def plan : Plan := { requests := 7, port := 8080 }

/-- The time of its last request is over a nanosecond before the deadline. -/
theorem requests_have_full_time_tightly :
    Plan.resolve? (some pod) = .ok plan ∧ plan.requests * 1000000000 ≤ plan.window.nanos ∧
      plan.requestTimeout = ⟨4285714285⟩ ∧
      (plan.offset 6).nanos + plan.requestTimeout.nanos = 29999999999 ∧
      (plan.offset 6).nanos + plan.requestTimeout.nanos ≤ plan.window.nanos := by
  have resolved : Plan.resolve? (some pod) = .ok plan := by rfl
  have long : plan.requests * 1000000000 ≤ plan.window.nanos := by decide
  obtain ⟨-, -, full, -⟩ := requests_have_full_time resolved
  exact ⟨resolved, long, by decide, by decide, full long 6 (by decide)⟩

end Tight
end WarmupGate.Controller
