import WarmupGate.Warmup.Execution
import WarmupGate.Proofs.Warmup.Timeline

/-!
# What an execution may report

A report that the run was cancelled from outside is true: the flag of the scope was raised before,
and it stays raised. A trial on the clock is one of the executions, and its flag is raised at the
end exactly if the cancellation came by then. The converse is not claimed: a run whose scope was
cancelled may still end by itself or by its deadline, when these are seen first.
-/
namespace WarmupGate.Warmup

theorem Trial.error_reportOf (tally : Tally) (elapsed : Span) (finish : Finish) (cause : Cause) :
    (Trial.reportOf tally elapsed finish).error = some (.cancelled cause) ↔
      finish = .stopped cause := by
  cases finish <;> simp [Trial.reportOf, Trial.measured]

namespace Supervision

variable {α : Type} {s : Supervision α}

theorem finish_of_broken (broken : s.broken = true) : s.finish = .overflowed := by
  simp [finish, broken]

theorem finish_of_told {cause : Cause} (sound : s.broken = false) (told : s.told = some cause) :
    s.finish = .stopped cause := by
  simp [finish, sound, told]

theorem finish_of_untold (sound : s.broken = false) (untold : s.told = none) :
    s.finish = .complete := by
  simp [finish, sound, untold]

end Supervision

theorem Watch.cancelled_of_err {w : Watch} (h : w.err = some .canceled) : w.cancelled = true := by
  unfold Watch.err at h
  split at h
  · assumption
  · split at h <;> cases h

namespace Execution

variable {α : Type} {p : Plan}

/-- Whoever was told of a cancellation was told the truth. -/
def Truthful (e : Execution α) : Prop :=
  match e.stage with
  | .entering => True
  | .running s => s.told = some .canceled → e.watch.cancelled = true
  | .ended report => report.error = some (.cancelled .canceled) → e.watch.cancelled = true

/-- Only the supervisor changes what the loop was told, and it has looked at the flag. -/
theorem told_of_step {w : Watch} {s t : Supervision α} (h : Supervision.Step w s t)
    (told : t.told = some .canceled) : s.told = some .canceled ∨ w.cancelled = true := by
  cases h with
  | tell found untold ends =>
    cases told
    exact .inr ends
  | look | halt | turn | wait | breakDown | find | pass => exact .inl told

theorem Truthful.step {e f : Execution α} (h : e.Truthful) (step : Step p e f) : f.Truthful := by
  cases step with
  | cancel w stage => cases stage <;> simp [Truthful]
  | expire w stage => exact h
  | refuse w missing => simp [Truthful, Trial.refused, Report.failure]
  | overAtStart address past =>
    intro error
    simp only [Trial.refused, Report.failure, Option.some.injEq, RunError.cancelled.injEq] at error
    exact Watch.cancelled_of_err (error ▸ past)
  | enter address live => simp [Truthful, Supervision.start]
  | work step =>
    intro told
    exact (told_of_step step told).elim h id
  | @leave w s elapsed halted found =>
    intro error
    rw [Trial.error_reportOf] at error
    apply h
    unfold Supervision.finish at error
    split at error
    · cases error
    · split at error <;> simp_all

theorem Reachable.truthful {e : Execution α} (h : Reachable p e) : e.Truthful := by
  induction h with
  | start => trivial
  | step _ step ih => exact ih.step step

theorem cancelled_of_report {e : Execution α} {report : Report} (h : Reachable p e)
    (ended : e.stage = .ended report) (error : report.error = some (.cancelled .canceled)) :
    e.watch.cancelled = true := by
  have truthful := h.truthful
  simp only [Truthful, ended] at truthful
  exact truthful error

theorem Reachable.turn {w : Watch} {b b' : Burst α} (h : Reachable p ⟨w, .running { burst := b }⟩)
    (running : b.running = true) (step : Burst.Step b b' ∧ b'.stopped = false) :
    Reachable p ⟨w, .running { burst := b' }⟩ :=
  (h.step (.work (.look running rfl rfl))).step (.work (.turn rfl step.1 step.2))

/-- A loop whose scope is over is told so, and stops. -/
theorem Reachable.stop {w : Watch} {b : Burst α} {cause : Cause}
    (h : Reachable p ⟨w, .running { burst := b }⟩) (running : b.running = true)
    (ends : w.MayEnd cause) :
    Reachable p ⟨w, .running { burst := b.stop, told := some cause }⟩ :=
  ((h.step (.work (.find running rfl))).step (.work (.tell rfl rfl ends))).step
    (.work (.halt running rfl rfl))

theorem exists_supervision (c : Course) (t : Timeline) (followable : t.Followable) {w : Watch}
    (h : Reachable p ⟨w, .running { burst := t.burst }⟩) :
    ∃ (w' : Watch) (s : Supervision Flight), Reachable p ⟨w', .running s⟩ ∧
      s.burst = (t.run c).1.burst ∧ s.finish = (t.run c).2 ∧ s.burst.running = false ∧
      s.found = false ∧
      (w'.cancelled = true → w.cancelled = true ∨ (t.run c).2 = .stopped .canceled) := by
  fun_induction Timeline.run c t with
  | case1 t running moment cause cut =>
    cases cause with
    | canceled =>
      have ends : Watch.MayEnd { w with cancelled := true } .canceled := rfl
      have h := (h.step (.cancel w _)).stop running ends
      exact ⟨_, _, h, rfl, rfl, rfl, rfl, fun _ => .inr rfl⟩
    | deadline =>
      have ends : Watch.MayEnd { w with expired := true } .deadline := rfl
      have h := (h.step (.expire w _)).stop running ends
      exact ⟨_, _, h, rfl, rfl, rfl, rfl, .inl⟩
  | case2 t running cut before k f after flight room ih =>
    have flights := Timeline.nextFlight_eq flight
    exact ih (Timeline.followable_turn followable flights)
      (h.turn running (Timeline.step_turn running flights))
  | case3 t running cut before k f after flight room =>
    exact absurd (followable.of_nextFlight flight) room
  | case4 t running cut flight due next far =>
    exact ⟨w, _, h.step (.work (.breakDown running)), rfl, rfl, rfl, rfl, .inl⟩
  | case5 t running cut flight due next near ih =>
    exact ih (Timeline.followable_dispatch followable)
      (h.turn running (Timeline.step_dispatch running next))
  | case6 t running cut flight due =>
    simp [Timeline.not_running_of_none flight due] at running
  | case7 t running => exact ⟨w, _, h, rfl, rfl, by simpa using running, rfl, .inl⟩

end Execution

theorem Limits.cancelAt_of_ending {l : Limits} {moment : Nat}
    (h : l.ending = some (moment, .canceled)) : l.cancelAt = some moment := by
  unfold Limits.ending at h
  split at h
  · split at h <;> simp_all
  all_goals simp_all

theorem Limits.ending_of_overAtStart {l : Limits} {cause : Cause}
    (h : l.overAtStart = some cause) : l.ending = some (0, cause) := by
  unfold Limits.overAtStart at h
  split at h <;> simp_all

namespace Trial

/-- A trial is refused for want of an address, refused since its limits are over, or run. -/
theorem run_cases (p : Plan) (limits : Limits) (target : Target) :
    (p.address.filter (· ≠ "") = none ∧
        run p limits target = refused .addressMissing addressMissingMessage) ∨
      (∃ address cause, p.address.filter (· ≠ "") = some address ∧
        limits.overAtStart = some cause ∧
        run p limits target = refused (.cancelled cause) cancelledMessage) ∨
      ∃ address, p.address.filter (· ≠ "") = some address ∧ limits.overAtStart = none ∧
        run p limits target = runAt p address limits target := by
  unfold run
  cases h : p.address.filter (· ≠ "") with
  | none => exact .inl ⟨rfl, rfl⟩
  | some address =>
    cases past : limits.overAtStart with
    | some cause => exact .inr (.inl ⟨address, cause, rfl, rfl, rfl⟩)
    | none => exact .inr (.inr ⟨address, rfl, rfl, rfl⟩)

/-- A trial that reports a cancellation from outside has lasted until that moment. -/
theorem cancelAt_of_report {p : Plan} {limits : Limits} {target : Target}
    (h : (run p limits target).report.error = some (.cancelled .canceled)) :
    limits.cancelAt = some (run p limits target).lasted := by
  rcases run_cases p limits target with ⟨-, eq⟩ | ⟨address, cause, -, past, eq⟩ | ⟨address, -, -, eq⟩
  · rw [eq] at h
    cases h
  · rw [eq] at h ⊢
    cases h
    exact Limits.cancelAt_of_ending (Limits.ending_of_overAtStart past)
  · rw [eq] at h ⊢
    have stopped := (error_reportOf _ _ _ _).1 h
    exact Limits.cancelAt_of_ending (Timeline.ending_of_stopped _ _ stopped)

/-- A trial ends as some execution does in which nobody cancels the scope unless the report says
that the run was cancelled. -/
theorem exists_watch (p : Plan) (limits : Limits) (target : Target) :
    ∃ w : Watch,
      Execution.Reachable p (⟨w, .ended (run p limits target).report⟩ : Execution Flight) ∧
      (w.cancelled = true →
        (run p limits target).report.error = some (.cancelled .canceled)) := by
  rcases run_cases p limits target with
    ⟨missing, eq⟩ | ⟨address, cause, found, past, eq⟩ | ⟨address, found, live, eq⟩
  · rw [eq]
    exact ⟨{}, .step .start (.refuse {} missing), (nomatch ·)⟩
  · rw [eq]
    cases cause with
    | canceled =>
      exact ⟨_, (Execution.Reachable.start.step (.cancel {} _)).step (.overAtStart found rfl),
        fun _ => rfl⟩
    | deadline =>
      exact ⟨_, (Execution.Reachable.start.step (.expire {} _)).step (.overAtStart found rfl),
        (nomatch ·)⟩
  · rw [eq]
    obtain ⟨w, s, reached, burst, finish, halted, aside, cancelled⟩ :=
      Execution.exists_supervision (course p address limits target) (Timeline.start p.requests)
        (Timeline.followable_start p.requests) (.step .start (.enter (w := {}) found rfl))
    have left := reached.step (.leave (.ofMillis (runAt p address limits target).lasted) halted aside)
    rw [burst, finish] at left
    refine ⟨w, left, fun h => ?_⟩
    rw [runAt, error_reportOf]
    exact (cancelled h).resolve_left (nomatch ·)

/-- A trial on the clock is one of the executions. At its end the scope is cancelled exactly if the
cancellation came by then. -/
theorem exists_execution (p : Plan) (limits : Limits) (target : Target) :
    ∃ e : Execution Flight, Execution.Reachable p e ∧
      e.stage = .ended (run p limits target).report ∧
      e.watch.cancelled =
        limits.cancelAt.any (fun moment => decide (moment ≤ (run p limits target).lasted)) := by
  obtain ⟨w, reached, truthful⟩ := exists_watch p limits target
  cases came : limits.cancelAt.any (fun moment => decide (moment ≤ (run p limits target).lasted))
  with
  | true => exact ⟨_, reached.step (.cancel w _), rfl, rfl⟩
  | false =>
    refine ⟨_, reached, rfl, ?_⟩
    cases raised : w.cancelled with
    | false => rfl
    | true =>
      have moment := cancelAt_of_report (truthful raised)
      simp [moment] at came

end Trial
end WarmupGate.Warmup
