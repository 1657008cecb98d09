import WarmupGate.Proofs.Warmup.Happenings
import WarmupGate.Warmup.Pace

/-!
# Virtual time is prompt

A prompt loop is one of the loops on a clock. A burst in virtual time passes nothing over, so each
of its states, seen on the clock of whole milliseconds, is a state of a prompt loop, in whatever
order the things of one millisecond happen. The converse is not claimed: a prompt loop may take
turns that no target could bring about.
-/
namespace WarmupGate.Warmup

theorem Span.ceilMillis_le_iff {d : Span} {millis : Nat} :
    d.ceilMillis ≤ millis ↔ d ≤ .ofMillis millis := by
  show (d.nanos + 999999) / 1000000 ≤ millis ↔ d.nanos ≤ millis * 1000000
  omega

namespace Paced.Prompt

variable {α : Type} {p : Plan} {l m : Paced α}

theorem Step.paced (h : Step p l m) : Paced.Step p l m := by
  cases h with
  | tick quiet => exact .wait _
  | turn turn same => exact .turn turn same
  | dispatch a fired => exact .dispatch a fired.running fired.room fired.due

theorem Reachable.paced (h : Reachable p l) : Paced.Reachable p l := by
  induction h with
  | start => exact .start
  | step _ step ih => exact ih.step step.paced

theorem wait_millis {millis : Nat} (now : l.now = .ofMillis millis) (d : Nat) :
    l.wait (.ofMillis d) = { l with now := .ofMillis (millis + d) } := by
  rw [wait, now, Span.ofMillis, Span.ofMillis, Span.ofMillis, Nat.add_mul]

theorem Reachable.until (h : Reachable p l) {millis : Nat} (now : l.now = .ofMillis millis)
    (d : Nat)
    (soon : l.burst.dispatched < l.burst.quota →
      millis + d ≤ (p.offset l.burst.dispatched).ceilMillis) :
    Reachable p { l with now := .ofMillis (millis + d) } := by
  induction d with
  | zero => rwa [Nat.add_zero, ← now]
  | succ d ih =>
    have before := ih fun room => Nat.le_of_succ_le (soon room)
    have quiet : ¬ Fired p { l with now := .ofMillis (millis + d) } := fun fired =>
      Nat.not_succ_le_self _
        (Nat.le_trans (soon fired.room) (Span.ceilMillis_le_iff.2 fired.due))
    have ticked := before.step (.tick quiet)
    rwa [wait_millis rfl] at ticked

end Paced.Prompt

/-- The departures of a run in virtual time, from their milliseconds. -/
def departuresOf : List Nat → List Departure
  | [] => []
  | millis :: earlier => ⟨earlier.length, .ofMillis millis⟩ :: departuresOf earlier

theorem map_instant_departuresOf (millis : List Nat) :
    (departuresOf millis).map Departure.instant = millis.map Span.ofMillis := by
  induction millis with
  | nil => rfl
  | cons _ _ ih => simp [departuresOf, ih]

namespace Timeline

variable {c : Course} {t u : Timeline} {e : Timeline × Finish} {l : Paced Flight}

theorem Step.length_sentAt (h : Step c t u) (sent : t.sentAt.length = t.burst.dispatched) :
    u.sentAt.length = u.burst.dispatched := by
  cases h with
  | turn running flights first =>
    obtain ⟨dispatched, -, sentAt⟩ := dispatched_turn c t _ _ _ _
    rw [sentAt, dispatched, sent]
  | dispatch running next => exact congrArg Nat.succ sent

theorem Reachable.length_sentAt (h : Reachable c t) : t.sentAt.length = t.burst.dispatched := by
  induction h with
  | start => rfl
  | step _ step ih => exact step.length_sentAt ih

theorem Ends.sentAt (h : Ends c t e) : e.1.sentAt = t.sentAt := by
  cases h <;> rfl

/-- A state of the loop on its clock, seen on the clock of whole milliseconds. -/
structure Shows (l : Paced Flight) (t : Timeline) : Prop where
  now : l.now = .ofMillis t.now
  burst : l.burst = t.burst
  departures : l.departures = departuresOf t.sentAt

theorem shows_start (quota : Nat) : Shows (.start quota) (start quota) where
  now := congrArg Span.mk (Nat.zero_mul _).symm
  burst := rfl
  departures := rfl

theorem Shows.until (h : Shows l t) (reached : Paced.Prompt.Reachable c.plan l) {moment : Nat}
    (later : t.now ≤ moment) (first : Earliest c t moment) :
    Paced.Prompt.Reachable c.plan { l with now := .ofMillis moment } := by
  obtain ⟨d, rfl⟩ := Nat.exists_eq_add_of_le later
  refine reached.until h.now d fun room => ?_
  rw [h.burst] at room ⊢
  exact first.due _ (by rw [nextDue, if_pos room, Course.due])

theorem Shows.step (h : Shows l t) (reached : Paced.Prompt.Reachable c.plan l)
    (timed : Reachable c t) (step : Step c t u) :
    ∃ m, Paced.Prompt.Reachable c.plan m ∧ Shows m u := by
  have forward := timed.forward
  cases step with
  | @turn before after k f running flights first =>
    obtain ⟨dispatched, -, sentAt⟩ := dispatched_turn c t before after k f
    have waited := h.until reached (forward.turns (k, f) (by simp [flights])).1 first
    refine ⟨_, waited.step (.turn (h.burst ▸ (step_turn running flights).1) ?_), ?_, rfl, ?_⟩
    · rw [dispatched, h.burst]
    · rw [now_turn]
    · rw [sentAt]
      exact h.departures
  | @dispatch due running next first =>
    have room := dispatched_lt_of_nextDue next
    rw [← due_of_nextDue next] at first
    have waited := h.until reached (forward.due room) first
    have fired : Paced.Fired c.plan
        { l with now := .ofMillis (c.due t.burst.dispatched) } := by
      refine ⟨h.burst ▸ running, h.burst ▸ room, ?_⟩
      rw [h.burst]
      exact Span.le_ceilMillis _
    refine ⟨_, waited.step (.dispatch (c.send t.arrivals (c.due t.burst.dispatched)).1 fired),
      rfl, ?_, ?_⟩
    · exact congrArg (Burst.dispatch · _) h.burst
    · simp only [Paced.dispatch, Timeline.dispatch, departuresOf, h.departures, h.burst,
        timed.length_sentAt]

theorem Reachable.exists_prompt (h : Reachable c t) :
    ∃ l, Paced.Prompt.Reachable c.plan l ∧ Shows l t := by
  induction h with
  | start => exact ⟨_, .start, shows_start _⟩
  | step timed step ih =>
    obtain ⟨l, reached, shows⟩ := ih
    exact shows.step reached timed step

end Timeline
end WarmupGate.Warmup
