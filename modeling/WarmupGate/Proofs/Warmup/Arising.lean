import WarmupGate.Proofs.Warmup.Cancellation

/-!
# Latencies and reports of executions

An execution tells exactly as many latencies as its report counts requests, however it ends:
requests that are given up leave neither behind. A loop that breaks down would count none of those
that it recorded, so this is said only of plans whose dispatches can all be planned.
-/
namespace WarmupGate.Warmup

variable {p : Plan}

namespace Supervision

theorem finish_eq_overflowed_iff {α : Type} {s : Supervision α} :
    s.finish = .overflowed ↔ s.broken = true := by
  unfold finish
  split
  · simp [*]
  · split <;> simp [*]

end Supervision

namespace Trial

theorem total_reportOf {α : Type} {b : Burst α} {finish : Finish} (elapsed : Span)
    (sound : finish ≠ .overflowed) :
    (reportOf b.tally elapsed finish).total = b.recorded.length := by
  cases finish with
  | overflowed => exact absurd rfl sound
  | stopped cause => exact total_stopped b elapsed cause
  | complete => exact total_measured b elapsed

theorem Arises.samples_eq {trial : Trial} (h : Arises p trial)
    (plannable : ∀ k ≤ p.requests, (p.offset k).nanos < instantLimit) :
    ∃ latencies : List Span, trial.samples = latencies.map (Telemetry.Sample.requestLatency p.ns) ∧
      latencies.length = trial.report.total ∧ trial.report.total ≤ p.requests := by
  cases h with
  | addressMissing | overAtStart => exact ⟨[], rfl, rfl, Nat.zero_le _⟩
  | @ran α w s trial elapsed reached halted breaks report samples =>
    have accounted := reached.burst.accounted
    -- the report on a loop that has broken down would count nothing
    have sound : s.finish ≠ .overflowed := by
      intro overflowed
      obtain ⟨k, room, far⟩ := breaks (Supervision.finish_eq_overflowed_iff.1 overflowed)
      exact absurd (plannable k room) (Nat.not_lt.2 far)
    refine ⟨_, samples, ?_, ?_⟩
    · rw [report, total_reportOf elapsed sound, List.length_reverse, accounted.samples_eq,
        List.length_map]
    · rw [report, total_reportOf elapsed sound]
      exact Nat.le_trans accounted.recorded_le accounted.dispatched_le

end Trial

theorem Timeline.exists_unplannable {quota : Nat} (c : Course) (t : Timeline)
    (followable : t.Followable) (h : Burst.Reachable quota t.burst)
    (overflowed : (t.run c).2 = .overflowed) : ∃ k ≤ quota, c.unplannable k = true := by
  fun_induction run c t with
  | case1 t running moment cause cut => cases overflowed
  | case2 t running cut before k f after flight room ih =>
    have flights := nextFlight_eq flight
    exact ih (followable_turn followable flights) (h.step (step_turn running flights).1) overflowed
  | case3 t running cut before k f after flight room =>
    exact absurd (followable.of_nextFlight flight) room
  | case4 t running cut flight due next far =>
    have left := dispatched_lt_of_nextDue next
    rw [h.accounted.quota_eq] at left
    exact ⟨t.burst.dispatched + 1, left, far⟩
  | case5 t running cut flight due next near ih =>
    exact ih (followable_dispatch followable) (h.step (step_dispatch running next).1) overflowed
  | case6 t running cut flight due => cases overflowed
  | case7 t running => cases overflowed

theorem Trial.arises_run (p : Plan) (limits : Limits) (target : Target) :
    Arises p (run p limits target) := by
  rcases run_cases p limits target with
    ⟨missing, eq⟩ | ⟨address, cause, found, past, eq⟩ | ⟨address, found, live, eq⟩
  · exact eq ▸ .addressMissing missing
  · exact eq ▸ .overAtStart cause found
  · have followable := Timeline.followable_start p.requests
    obtain ⟨w, s, reached, burst, finish, halted, -⟩ :=
      Execution.exists_supervision (course p address limits target) (Timeline.start p.requests)
        followable (.step .start (.enter (w := {}) found rfl))
    rw [eq]
    refine .ran (.ofMillis (runAt p address limits target).lasted) reached halted ?_ ?_ ?_
    · intro broken
      have overflowed := finish.symm.trans (Supervision.finish_eq_overflowed_iff.2 broken)
      obtain ⟨k, room, far⟩ := Timeline.exists_unplannable _ _ followable .start overflowed
      exact ⟨k, room, of_decide_eq_true far⟩
    · rw [burst, finish, runAt]
    · rw [burst, runAt]

end WarmupGate.Warmup
