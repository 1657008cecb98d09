import Mathlib.Logic.Relation
import WarmupGate.Proofs.Warmup.Execution
import WarmupGate.Warmup.Happenings

/-!
# What every order of happenings keeps

A happening on the clock is a turn of the loop, the clock never goes back and never passes the end
of the scope, and every happening leaves less to happen. So no burst goes on forever, and every
state of it comes to an end. The run that takes the flights of one millisecond in the order of their
dispatch is one of the orders. A run that its scope has not stopped could have taken place without
the scope.
-/
namespace WarmupGate.Warmup

open Relation

namespace Timeline

variable {c : Course} {t u : Timeline} {e : Timeline × Finish} {ending : Option (Nat × Cause)}
  {moment : Nat}

theorem Step.burst (h : Step c t u) : Burst.Step t.burst u.burst ∧ u.burst.stopped = false := by
  cases h with
  | turn running flights => exact step_turn running flights
  | dispatch running next => exact step_dispatch running next

theorem Step.followable (h : Step c t u) (followable : t.Followable) : u.Followable := by
  cases h with
  | turn running flights => exact followable_turn followable flights
  | dispatch running next => exact followable_dispatch followable

theorem Step.forward (h : Step c t u) (forward : Forward c t) : Forward c u := by
  cases h with
  | turn running flights first => exact forward.turn flights first.turns first.due
  | dispatch running next first => exact forward.dispatch next first.turns

theorem Step.weight_lt (h : Step c t u) (followable : t.Followable) : u.weight < t.weight := by
  cases h with
  | @turn before after k f running flights =>
    exact weight_turn flights (followable (k, f) (by simp [flights]))
  | dispatch running next => exact weight_dispatch (dispatched_lt_of_nextDue next)

theorem Step.earliest_now (h : Step c t u) : Earliest c t u.now := by
  cases h with
  | turn running flights first => rwa [now_turn]
  | dispatch running next first =>
    rw [← due_of_nextDue next] at first
    exact first

theorem Reachable.burst (h : Reachable c t) :
    Burst.Reachable c.plan.requests t.burst ∧ t.burst.stopped = false := by
  induction h with
  | start => exact ⟨.start, rfl⟩
  | step _ step ih => exact ⟨ih.1.step step.burst.1, step.burst.2⟩

theorem Reachable.followable (h : Reachable c t) : t.Followable := by
  induction h with
  | start => exact followable_start _
  | step _ step ih => exact step.followable ih

theorem Reachable.forward (h : Reachable c t) : Forward c t := by
  induction h with
  | start => exact forward_start c
  | step _ step ih => exact step.forward ih

theorem Reachable.now_le (h : Reachable c t) {e : Nat × Cause} (ending : c.ending = some e) :
    t.now ≤ e.1 := by
  cases h with
  | start => exact Nat.zero_le _
  | step _ step => exact step.earliest_now.ending e ending

theorem Ends.now_le (h : Ends c t e) (reached : Reachable c t) {last : Nat × Cause}
    (ending : c.ending = some last) : e.1.now ≤ last.1 := by
  cases h with
  | complete halted => exact reached.now_le ending
  | stop running same first =>
    cases same.symm.trans ending
    exact Nat.le_refl _
  | told halted same now => exact reached.now_le ending
  | breakDown running next first => exact first.ending last ending

theorem not_endless (s : Nat → Timeline) (reached : Reachable c (s 0)) :
    ¬ ∀ n, Step c (s n) (s (n + 1)) := by
  intro endless
  -- after n happenings there is less left to happen, by n at least
  have falls : ∀ n, Reachable c (s n) ∧ (s n).weight + n ≤ (s 0).weight := by
    intro n
    induction n with
    | zero => exact ⟨reached, Nat.le_refl _⟩
    | succ n ih =>
      have less := (endless n).weight_lt ih.1.followable
      exact ⟨ih.1.step (endless n), by omega⟩
  have := (falls ((s 0).weight + 1)).2
  omega

theorem Earliest.free (h : Earliest (c.until ending) t moment) :
    Earliest (c.until none) t moment where
  turns := h.turns
  due := h.due
  ending := fun _ => (nomatch ·)

theorem Step.free (h : Step (c.until ending) t u) : Step (c.until none) t u := by
  cases h with
  | turn running flights first => exact .turn running flights first.free
  | dispatch running next first near => exact .dispatch running next first.free near

theorem Reachable.free (h : Reachable (c.until ending) t) : Reachable (c.until none) t := by
  induction h with
  | start => exact .start
  | step _ step ih => exact ih.step step.free

theorem Ends.free (h : Ends (c.until ending) t e) (own : ∀ cause, e.2 ≠ .stopped cause) :
    Ends (c.until none) t e := by
  cases h with
  | complete halted => exact .complete halted
  | stop => exact absurd rfl (own _)
  | told => exact absurd rfl (own _)
  | breakDown running next first far => exact .breakDown running next first.free far

/-- One state of a burst on the clock, and another that it may come to. -/
abbrev Later (c : Course) : Timeline → Timeline → Prop := ReflTransGen (Step c)

theorem earliest_of_nextFlight {before after : List (Nat × Flight)} {f : Nat × Flight}
    (flight : nextFlight c t = some (before, f, after))
    (ending : ∀ e, c.ending = some e → f.2.turnAt ≤ e.1) : Earliest c t f.2.turnAt where
  turns := (turnAt_le_of_nextFlight flight).1
  due := (turnAt_le_of_nextFlight flight).2
  ending := ending

theorem earliest_of_nextDue {due : Nat} (flight : nextFlight c t = none)
    (next : nextDue c t = some due) (ending : ∀ e, c.ending = some e → due ≤ e.1) :
    Earliest c t due where
  turns := due_le_of_nextFlight flight next
  due other same := by
    cases next.symm.trans same
    exact Nat.le_refl _
  ending := ending

theorem le_of_interrupted {next : Nat} (cut : interrupted c.ending (some next) = none) :
    ∀ e, c.ending = some e → next ≤ e.1 := by
  rintro ⟨moment, cause⟩ ending
  rw [ending] at cut
  exact Nat.le_of_lt (lt_of_interrupted cut)

theorem earliest_of_interrupted {cause : Cause} (running : t.burst.running = true)
    (cut : interrupted c.ending (nextAt c t) = some (moment, cause)) : Earliest c t moment := by
  have ending := ending_of_interrupted cut
  have own : ∀ e, c.ending = some e → moment ≤ e.1 := by
    intro e same
    cases ending.symm.trans same
    exact Nat.le_refl _
  have soon : ∀ next, nextAt c t = some next → moment ≤ next := by
    intro next eq
    rw [ending, eq, interrupted] at cut
    split at cut
    · assumption
    · cases cut
  cases flight : nextFlight c t with
  | some split =>
    obtain ⟨before, f, after⟩ := split
    have first := turnAt_le_of_nextFlight flight
    have le := soon f.2.turnAt (by rw [nextAt, flight])
    exact ⟨fun g hg => Nat.le_trans le (first.1 g hg),
      fun due next => Nat.le_trans le (first.2 due next), own⟩
  | none =>
    cases next : nextDue c t with
    | none => simp [not_running_of_none flight next] at running
    | some due =>
      have le := soon due (by rw [nextAt, flight, next])
      refine ⟨fun g hg => Nat.le_trans le (due_le_of_nextFlight flight next g hg), ?_, own⟩
      intro other same
      cases next.symm.trans same
      exact le

theorem exists_ends_run (c : Course) (t : Timeline) (h : Reachable c t) :
    ∃ u, Later c t u ∧ Ends c u (run c t) := by
  fun_induction run c t with
  | case1 t running moment cause cut =>
    have ending := ending_of_interrupted cut
    exact ⟨t, .refl, .stop running ending (earliest_of_interrupted running cut)⟩
  | case2 t running cut before k f after flight room ih =>
    have soon : ∀ e, c.ending = some e → f.turnAt ≤ e.1 := by
      rw [nextAt, flight] at cut
      exact le_of_interrupted cut
    have step : Step c t (turn c t before k f after) :=
      .turn running (nextFlight_eq flight) (earliest_of_nextFlight flight soon)
    obtain ⟨u, later, ends⟩ := ih (h.step step)
    exact ⟨u, .head step later, ends⟩
  | case3 t running cut before k f after flight room =>
    -- no request is led on so often that the run would have to give up
    exact absurd (h.followable.of_nextFlight flight) room
  | case4 t running cut flight due next far =>
    rw [nextAt, flight, next] at cut
    have first := earliest_of_nextDue flight next (le_of_interrupted cut)
    exact ⟨t, .refl, .breakDown running next first far⟩
  | case5 t running cut flight due next near ih =>
    rw [nextAt, flight, next] at cut
    have first := earliest_of_nextDue flight next (le_of_interrupted cut)
    have step : Step c t (dispatch c t) := .dispatch running next first (by simpa using near)
    obtain ⟨u, later, ends⟩ := ih (h.step step)
    exact ⟨u, .head step later, ends⟩
  | case6 t running cut flight due => simp [not_running_of_none flight due] at running
  | case7 t running => exact ⟨t, .refl, .complete (by simpa using running)⟩

theorem Reachable.later (h : Reachable c t) (later : Later c t u) : Reachable c u := by
  induction later with
  | refl => exact h
  | tail _ step ih => exact ih.step step

/-- A burst comes to an end in every order of its happenings. -/
structure Halts (c : Course) : Prop where
  exists_end : ∀ t, Reachable c t → ∃ u e, Later c t u ∧ Ends c u e
  not_endless : ∀ s : Nat → Timeline, s 0 = .start c.plan.requests →
    ¬ ∀ n, Step c (s n) (s (n + 1))

theorem halts (c : Course) : Halts c where
  exists_end t reached := by
    obtain ⟨u, later, ends⟩ := exists_ends_run c t reached
    exact ⟨u, _, later, ends⟩
  not_endless s first := Timeline.not_endless s (first ▸ .start)

end Timeline

theorem Limits.allows_ending (l : Limits) : l.Allows l.ending := by
  obtain ⟨deadline, cancelAt⟩ := l
  cases deadline with
  | none =>
    cases cancelAt with
    | none => exact .none rfl rfl
    | some moment => exact .canceled rfl fun _ => (nomatch ·)
  | some d =>
    cases cancelAt with
    | none => exact .deadline rfl fun _ => (nomatch ·)
    | some moment =>
      unfold Limits.ending
      dsimp only [Option.map_some]
      split
      · rename_i soon
        refine .canceled rfl fun other same => ?_
        cases same
        exact soon
      · rename_i late
        refine .deadline rfl fun other same => ?_
        cases same
        exact Nat.le_of_not_le late

theorem Limits.Allows.exists_le {l : Limits} {ending : Option (Nat × Cause)} {d : Span}
    (h : l.Allows ending) (deadline : l.deadline = some d) :
    ∃ last, ending = some last ∧ last.1 ≤ d.ceilMillis := by
  cases h with
  | none _ free => cases free.symm.trans deadline
  | canceled _ soon => exact ⟨_, rfl, soon d deadline⟩
  | deadline same =>
    cases same.symm.trans deadline
    exact ⟨_, rfl, Nat.le_refl _⟩

theorem Span.ceilMillis_eq_zero_iff {d : Span} : d.ceilMillis = 0 ↔ d.nanos = 0 := by
  unfold Span.ceilMillis
  omega

theorem Limits.overAtStart_of_cancelled {l : Limits} (h : l.cancelAt = some 0) :
    l.overAtStart = some .canceled := by
  unfold Limits.overAtStart Limits.ending
  cases deadline : l.deadline <;> simp [h]

theorem Limits.overAtStart_of_uncancelled {l : Limits} (h : l.cancelAt ≠ some 0) :
    l.overAtStart =
      if l.deadline.any (fun d => decide (d.nanos = 0)) then some .deadline else none := by
  unfold Limits.overAtStart Limits.ending
  cases deadline : l.deadline with
  | none => cases cancelAt : l.cancelAt <;> simp_all
  | some d =>
    by_cases none : d.nanos = 0
    · have zero := Span.ceilMillis_eq_zero_iff.2 none
      cases cancelAt : l.cancelAt <;> simp_all
    · have some : d.ceilMillis ≠ 0 := fun zero => none (Span.ceilMillis_eq_zero_iff.1 zero)
      cases cancelAt : l.cancelAt with
      | none => simp [none, some]
      | some moment =>
        by_cases soon : moment ≤ d.ceilMillis
        · simp_all
        · simp [soon, none, some]

theorem Forest.remaining_eq_zero_iff (f : Forest) (d : Span) :
    (f.remaining d).nanos = 0 ↔ d ≤ f.now := Nat.sub_eq_zero_iff_le

/-- A run is over before it starts exactly if its scope is, and for the same cause. -/
theorem Forest.overAtStart_limits (f : Forest) (s : Scope) {cancelAt : Option Nat}
    (later : cancelAt ≠ some 0) : (f.limits s cancelAt).overAtStart = f.err s := by
  unfold Forest.err
  by_cases cancelled : f.cancelled s = true
  · rw [if_pos cancelled]
    exact Limits.overAtStart_of_cancelled (if_pos cancelled)
  · have own : (f.limits s cancelAt).cancelAt = cancelAt := if_neg cancelled
    have expired : (f.limits s cancelAt).deadline.any (fun d => decide (d.nanos = 0)) =
        f.expired s := by
      rw [Forest.limits, Forest.expired, Option.any_map]
      exact congrArg (Option.any · s.deadline)
        (funext fun d => decide_eq_decide.2 (f.remaining_eq_zero_iff d))
    rw [if_neg cancelled, Limits.overAtStart_of_uncancelled (by rwa [own]), expired]

/-- A scope that is over leaves no time to start in, whenever else it would have been cancelled. -/
theorem Forest.exists_overAtStart (f : Forest) (s : Scope) (cancelAt : Option Nat)
    (closed : f.err s ≠ none) : ∃ cause, (f.limits s cancelAt).overAtStart = some cause ∧
      (cancelAt ≠ some 0 → f.err s = some cause) := by
  by_cases first : cancelAt = some 0
  · have own : (f.limits s cancelAt).cancelAt = some 0 := by simp [Forest.limits, first]
    exact ⟨.canceled, Limits.overAtStart_of_cancelled own, (absurd first ·)⟩
  · obtain ⟨cause, err⟩ := Option.ne_none_iff_exists'.1 closed
    exact ⟨cause, (f.overAtStart_limits s first).trans err, fun _ => err⟩

namespace Trial

variable {p : Plan} {limits : Limits} {target : Target} {trial : Trial}

theorem until_ending (p : Plan) (address : String) (limits : Limits) (target : Target) :
    (course p address {} target).until limits.ending = course p address limits target := by
  rw [Course.until, course, course]

theorem runAt_eq (p : Plan) (address : String) (limits : Limits) (target : Target) :
    runAt p address limits target =
      ofEnd p address ((Timeline.start p.requests).run (course p address limits target)) := by
  unfold runAt ofEnd
  cases (Timeline.start p.requests).run (course p address limits target)
  rfl

theorem mayBring_run (p : Plan) (limits : Limits) (target : Target) :
    MayBring p limits target (run p limits target) := by
  rcases run_cases p limits target with
    ⟨missing, eq⟩ | ⟨address, cause, found, past, eq⟩ | ⟨address, found, live, eq⟩
  · rw [eq]
    exact .addressMissing missing
  · rw [eq]
    exact .overAtStart found past
  · have first : Timeline.Reachable (course p address limits target) (.start p.requests) := .start
    obtain ⟨u, later, ends⟩ := Timeline.exists_ends_run _ _ first
    have reached := first.later later
    rw [← until_ending] at reached ends
    rw [eq, runAt_eq, ← until_ending]
    exact .ran found live limits.allows_ending reached ends

theorem elapsed_reportOf (tally : Tally) (elapsed : Span) (finish : Finish) :
    (reportOf tally elapsed finish).elapsed = elapsed := by
  cases finish <;> rfl

end Trial
end WarmupGate.Warmup
