import WarmupGate.Proofs.Controller.Revisit
import WarmupGate.Proofs.Warmup.Consistency
import WarmupGate.Proofs.Warmup.Healthy
import WarmupGate.Proofs.Warmup.Schedule

/-!
# Healthy pods are reported complete

A pod that is ready, has an address and a plan, and answers every request of the plan in the 200s,
within the time of the request and within the window. Its run is a success without a failure, lasts
until the last answer, and the record says so. Requests may overlap, and answers may come in any
order. Nothing is claimed about pods that answer too late once.
-/
namespace WarmupGate.Warmup

variable {p : Plan} {address : String} {target : Target} {ending : Option (Nat × Cause)}
  {l : Nat → Nat}

namespace Trial

/-- The target can be asked at an address, and answers all requests of a plan in the 200s, request k
whole after `l k` milliseconds, within the time of the request and within the window. -/
structure Healthy (p : Plan) (address : String) (target : Target) (l : Nat → Nat) : Prop where
  reachable : ∃ url, (Net.Url.read? (p.url address).toList).map Net.Url.withoutCredentials =
    some url ∧ unreachable? url url = none
  answers : ∀ k < p.requests, (target k).Succeeds (l k)
  timely : ∀ k < p.requests, l k < p.requestTimeout.ceilMillis
  inWindow : ∀ k < p.requests, p.slot k + l k < p.window.ceilMillis

theorem Healthy.course (h : Healthy p address target l) (bounds : p.InBounds)
    (cause : Cause) :
    ((course p address {} target).until (some (p.window.ceilMillis, cause))).Healthy l where
  endpoint := by
    simp only [Course.until, Trial.course]
    exact h.reachable
  answers := h.answers
  timely := h.timely
  inScope := by
    rintro e same
    cases same
    have first := h.inWindow 0 bounds.requests.1
    refine ⟨Nat.zero_lt_of_lt first, fun k room => ?_⟩
    show (p.offset k).ceilMillis + l k < p.window.ceilMillis
    rw [Plan.ceilMillis_offset bounds.fits (Nat.le_of_lt room)]
    exact h.inWindow k room
  plannable k room := Plan.plannable bounds.fits room rfl

/-- The report on a run in which all requests of a plan succeeded. -/
structure Completes (p : Plan) (l : Nat → Nat) (report : Report) : Prop where
  success : report.success = true
  completed : report.completed = p.requests
  failed : report.failed = 0
  error : report.error = none
  elapsed : report.elapsed =
    .ofMillis ((Finset.range p.requests).sup fun k => p.slot k + l k)
  message : ∃ rest, report.message =
    "warmup completed: " ++ Text.decimal p.requests ++ "/" ++ Text.decimal p.requests ++
      " requests succeeded" ++ rest

theorem lastAnswer_eq (bounds : p.InBounds) {c : Course} (plan : c.plan = p) :
    c.lastAnswer l = (Finset.range p.requests).sup fun k => p.slot k + l k := by
  rw [Course.lastAnswer, plan]
  refine Finset.sup_congr rfl fun k member => ?_
  rw [Course.due, plan,
    Plan.ceilMillis_offset bounds.fits (Nat.le_of_lt (Finset.mem_range.1 member))]

theorem summary_of_success {report : Report} (error : report.error = none)
    (success : report.success = true) (failed : report.failed = 0) (some : 0 < report.completed) :
    ∃ rest, report.summary =
      "warmup completed: " ++ Text.decimal report.completed ++ "/" ++
        Text.decimal report.completed ++ " requests succeeded" ++ rest := by
  have total : report.total = report.completed := by rw [Report.total, failed, Nat.add_zero]
  obtain ⟨rest, summary⟩ := Report.exists_summary error (total ▸ Nat.ne_of_gt some)
  rw [success, total] at summary
  exact ⟨rest, summary⟩

theorem completes_reportOf {t : Timeline} (requests : t.burst.recorded.length = p.requests)
    (successes : ∀ r ∈ t.burst.recorded, r.2.IsSuccess) (some : 0 < p.requests)
    (now : t.now = (Finset.range p.requests).sup fun k => p.slot k + l k) :
    Completes p l (reportOf t.burst.tally (.ofMillis t.now) .complete) := by
  obtain ⟨-, counted, failures⟩ := t.burst.tally_counts
  rw [List.countP_eq_length.2 fun r member => decide_eq_true (successes r member),
    requests] at counted
  rw [List.countP_eq_zero.2 fun r member => by simpa using successes r member] at failures
  have success : (reportOf t.burst.tally (.ofMillis t.now) .complete).success = true :=
    decide_eq_true (counted.symm ▸ some)
  have completed : (reportOf t.burst.tally (.ofMillis t.now) .complete).completed = p.requests :=
    counted
  refine ⟨success, completed, failures, rfl, congrArg Span.ofMillis now, ?_⟩
  have summary := summary_of_success rfl success failures (completed ▸ some)
  rw [completed] at summary
  exact summary

/-- The scope of a run within its window is open at first, and ends with the window. -/
theorem allows_window (bounds : p.InBounds) :
    (⟨some p.window, none⟩ : Limits).overAtStart = none ∧
      ∀ ending, (⟨some p.window, none⟩ : Limits).Allows ending →
        ending = some (p.window.ceilMillis, .deadline) := by
  have least : Span.ofSeconds 1 ≤ p.window := bounds.window.1
  have open_ : p.window.nanos ≠ 0 := Nat.ne_of_gt (Nat.lt_of_lt_of_le (by decide) least)
  refine ⟨?_, fun ending allows => ?_⟩
  · have uncancelled : (⟨some p.window, none⟩ : Limits).cancelAt ≠ some 0 := by simp
    rw [Limits.overAtStart_of_uncancelled uncancelled]
    simp [open_]
  · cases allows with
    | none _ free => cases free
    | canceled cancelled => cases cancelled
    | deadline window =>
      cases window
      rfl

/-- A run of a healthy plan completes in whatever order things happen. -/
theorem MayBring.completes {trial : Trial}
    (h : MayBring p ⟨some p.window, none⟩ target trial) (bounds : p.InBounds)
    (found : p.address = some address) (healthy : Healthy p address target l) :
    Completes p l trial.report := by
  obtain ⟨open_, window⟩ := allows_window bounds
  have given : p.address.filter (· ≠ "") = some address := by
    rw [found, Option.filter_some, if_pos]
    exact decide_eq_true fun empty => bounds.address (empty ▸ found)
  cases h with
  | addressMissing missing => cases missing.symm.trans given
  | overAtStart _ past => cases open_.symm.trans past
  | @ran other ending t e same live allows reached ends =>
    cases same.symm.trans given
    obtain rfl := window ending allows
    have course := healthy.course bounds .deadline
    obtain ⟨rfl, halted⟩ := ends.complete_of_healthy reached course
    obtain ⟨requests, successes, now⟩ := reached.all_succeeded course halted
    rw [lastAnswer_eq bounds rfl] at now
    exact completes_reportOf requests successes bounds.requests.1 now

end Trial
end WarmupGate.Warmup

namespace WarmupGate.Controller
open Warmup

section Looks
variable {c : Circumstances} {pod : Pod} {plan : Plan} {l : Nat → Nat}

/-- A pod that is ready for its warmup and healthy, and circumstances that leave it alone: its
requests are sent, there is no shutdown, and the record is accepted. -/
structure Healthy (c : Circumstances) (pod : Pod) (plan : Plan) (l : Nat → Nat) : Prop where
  ready : pod.gateState = .ready
  resolved : Plan.resolve? (some pod) = .ok plan
  healthy : ∃ address, Plan.HasAddress pod address ∧ Trial.Healthy plan address c.target l
  sending : c.executor = .sending
  undisturbed : c.shutdownAt = none
  accepted : c.answer = .ok ()

/-- One write says that the warmup is complete, with the message of the report. -/
structure RecordsComplete (report : Report) (r : Reconciliation) : Prop where
  writes : ∃ written entry, r.writes = [written] ∧
    Condition.find? Pod.Key.warmupReady written = some entry ∧ entry.status = "True" ∧
    entry.reason = some "WarmupComplete" ∧ entry.message = some report.message
  result : r.result = .ok .awaitChange

theorem recordsComplete_of_success {trial : Trial} (success : trial.report.success = true)
    (error : trial.report.error = none) (accepted : c.answer = .ok ()) (raised : Bool) :
    RecordsComplete trial.report ((Attempt.ofTrial pod plan trial).reconciled c pod raised) := by
  have free : trial.report.error ≠ some (.cancelled .canceled) := by simp [error]
  have settles : Settles pod c.now trial.report raised
      ((Attempt.ofTrial pod plan trial).reconciled c pod raised) :=
    settles_reconciled fun cancelled => absurd cancelled free
  obtain ⟨entry, found, status, reason, message, -⟩ := Condition.exists_find?_upsert
    pod.status.conditions ((Outcome.executed trial.report).condition c.now)
  have written := settles.written free
  rw [← recorded_executed] at written
  refine ⟨⟨_, entry, written, found, status, ?_, ?_⟩, ?_⟩
  · simp [reason, Outcome.condition, Reason.condition, Outcome.reason, success, Reason.text]
  · simp [message, Outcome.condition, Reason.condition, Outcome.message, success]
  · have kept : (Outcome.executed trial.report).cancelled = false := by
      simpa using fun h => free ((cancelled_executed trial.report).1 h)
    simp [Attempt.reconciled, Attempt.ofTrial, conclude, kept, record_of_ok accepted]

/-- A healthy pod is reported complete. Its run, in whatever order things happen, is a success with
as many successful requests as the plan has, without a failure and without an error, and lasts until
the last answer; and the one record of it says so. -/
theorem healthy_pod_completes (h : Healthy c pod plan l) :
    (∀ trial, Trial.MayBring plan ⟨some plan.window, c.shutdownAt⟩ c.target trial →
        Trial.Completes plan l trial.report ∧
          RecordsComplete trial.report ((Attempt.ofTrial pod plan trial).reconciled c pod
            ((Attempt.ofTrial pod plan trial).sawShutdown c))) ∧
      Trial.Completes plan l (c.trial plan).report ∧
      RecordsComplete (c.trial plan).report (reconcile c pod) := by
  have asks := Plan.resolve_eq_ok_iff.1 h.resolved
  obtain ⟨address, has, healthy⟩ := h.healthy
  have brings : ∀ trial, Trial.MayBring plan ⟨some plan.window, c.shutdownAt⟩ c.target trial →
      Trial.Completes plan l trial.report ∧
        RecordsComplete trial.report ((Attempt.ofTrial pod plan trial).reconciled c pod
          ((Attempt.ofTrial pod plan trial).sawShutdown c)) := by
    intro trial brought
    rw [h.undisturbed] at brought
    have completes := brought.completes asks.inBounds ((asks.address address).2 has) healthy
    exact ⟨completes, recordsComplete_of_success completes.success completes.error h.accepted _⟩
  have own := brings (c.trial plan) (by
    rw [Circumstances.trial_of_sending h.sending]
    exact Trial.mayBring_run plan _ c.target)
  refine ⟨brings, own.1, ?_⟩
  rw [reconcile_of_ready h.ready, attempt_of_runs h.resolved (congrArg Executor.skips h.sending)]
  exact own.2

end Looks

namespace Brisk

/-- A pod with a colon address that is sent two requests in a second. -/
def pod : Pod :=
  { Waiting.pod with
    metadata := { Waiting.pod.metadata with annotations := [(Pod.Key.requests, "60")] }
    status := { Waiting.pod.status with address := some "fd00::12" } }

def plan : Plan := { Waiting.plan with requests := 60, address := some "fd00::12" }

/-- Every second answer is overtaken by the next one. -/
def millis (k : Nat) : Nat := if k % 2 = 0 then 700 else 100

def circumstances : Circumstances :=
  { executor := .sending
    target := fun k => { delay := millis k }
    now := ⟨"2024-05-01T10:00:00Z"⟩
    requeueDelay := .ofSeconds 5 }

def url : Net.Url := { authority := { host := "[fd00::12]".toList, port := some 8080 }, path := ['/'] }

theorem read_url : (Net.Url.read? (plan.url "fd00::12").toList).map Net.Url.withoutCredentials =
    some url := by
  decide +kernel

theorem millis_le (k : Nat) : millis k ≤ 700 := by
  unfold millis
  split <;> decide

theorem healthy : Trial.Healthy plan "fd00::12" circumstances.target millis where
  reachable := ⟨url, read_url, by decide⟩
  answers k _ := ⟨rfl, Nat.le_refl 200, (by decide : 200 < 300), rfl⟩
  timely k _ := Nat.lt_of_le_of_lt (millis_le k) (by decide)
  inWindow := by decide

theorem healthy_pod_completes_briskly :
    Healthy circumstances pod plan millis ∧
      (circumstances.trial plan).report.completed = 60 ∧
      (circumstances.trial plan).report.elapsed = .ofMillis 29700 := by
  have pod_healthy : Healthy circumstances pod plan millis :=
    ⟨rfl, rfl, ⟨"fd00::12", ⟨rfl, by decide⟩, healthy⟩, rfl, rfl, rfl⟩
  obtain ⟨-, completes, -⟩ := healthy_pod_completes pod_healthy
  have last : ((Finset.range 60).sup fun k => plan.slot k + millis k) = 29700 := by
    decide +kernel
  refine ⟨pod_healthy, completes.completed, ?_⟩
  rw [completes.elapsed]
  exact congrArg Span.ofMillis last

end Brisk

end WarmupGate.Controller
