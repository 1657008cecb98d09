import Mathlib.Order.Bounds.Defs
import WarmupGate.Proofs.Warmup.Pace
import WarmupGate.Proofs.Warmup.Schedule

/-!
# The schedule does not depend on the target

A prompt loop sends each request in the first whole millisecond of its part of the window, whatever
the requests in flight do meanwhile. So what two runs have sent differs only in how far they have
come, and two runs that are not stopped send the same requests in the same milliseconds. This is
said of windows that fit into a word, and of loops that are not held up; a loop that is held up may
be behind.
-/
namespace WarmupGate.Warmup

namespace Plan

def departure (p : Plan) (k : Nat) : Departure := ⟨k, .ofMillis (p.slot k)⟩

theorem map_instant_departure (p : Plan) (ks : List Nat) :
    (ks.map p.departure).map Departure.instant = (ks.map p.slot).map Span.ofMillis := by
  simp only [List.map_map, Function.comp_def, departure]

theorem slot_mono (p : Plan) {j k : Nat} (le : j ≤ k) : p.slot j ≤ p.slot k :=
  Nat.div_le_div_right (Nat.add_le_add_right (part_mono _ _ le) _)

/-- A slot is the first whole millisecond that is not before its part of the window, from whatever
millisecond on the window is counted. -/
theorem isLeast_slot (p : Plan) (start k : Nat) :
    IsLeast {moment : ℕ | start * 1000000 + p.window.nanos * k / p.requests ≤ moment * 1000000}
      (start + p.slot k) := by
  constructor
  · show start * 1000000 + p.window.nanos * k / p.requests ≤ (start + p.slot k) * 1000000
    rw [Nat.add_mul]
    exact Nat.add_le_add_left (Span.le_ceilMillis ⟨p.window.nanos * k / p.requests⟩) _
  · intro moment late
    have begun : start * 1000000 + p.window.nanos * k / p.requests ≤ moment * 1000000 := late
    have left : p.window.nanos * k / p.requests ≤ (moment - start) * 1000000 := by
      rw [Nat.sub_mul]
      exact Nat.le_sub_of_add_le' begun
    have started : start ≤ moment :=
      Nat.le_of_mul_le_mul_right (Nat.le_trans (Nat.le_add_right _ _) begun) (by decide)
    calc start + p.slot k ≤ start + (moment - start) :=
          Nat.add_le_add_left (Span.ceilMillis_le_iff.2 left) _
      _ = moment := Nat.add_sub_cancel' started

end Plan

namespace Paced.Prompt

variable {α : Type} {p : Plan} {l m : Paced α}

/-- The clock has not passed the slot of the next request, and all requests before it have left in
theirs. -/
structure InTime (p : Plan) (l : Paced α) : Prop where
  clock : ∃ millis, l.now = .ofMillis millis ∧
    (l.burst.running = true → l.burst.dispatched < p.requests →
      millis ≤ p.slot l.burst.dispatched)
  departures : l.departures.reverse = (List.range l.burst.dispatched).map p.departure

theorem Reachable.quota_eq (h : Reachable p l) : l.burst.quota = p.requests :=
  h.paced.burst.accounted.quota_eq

theorem Reachable.fired_iff (h : Reachable p l) (fits : p.window.nanos < Word.size 64)
    {millis : Nat} (now : l.now = .ofMillis millis) :
    l.Fired p ↔ l.burst.running = true ∧ l.burst.dispatched < p.requests ∧
      p.slot l.burst.dispatched ≤ millis := by
  have due (room : l.burst.dispatched < p.requests) :
      p.offset l.burst.dispatched ≤ l.now ↔ p.slot l.burst.dispatched ≤ millis := by
    rw [now, ← Span.ceilMillis_le_iff, Plan.ceilMillis_offset fits (Nat.le_of_lt room)]
  constructor
  · intro fired
    have room := h.quota_eq ▸ fired.room
    exact ⟨fired.running, room, (due room).1 fired.due⟩
  · rintro ⟨running, room, late⟩
    exact ⟨running, h.quota_eq ▸ room, (due room).2 late⟩

theorem inTime_start (p : Plan) : InTime p (start p.requests : Paced α) where
  clock := ⟨0, congrArg Span.mk (Nat.zero_mul _).symm, fun _ _ => Nat.zero_le _⟩
  departures := rfl

theorem InTime.tick (h : InTime p l) (reached : Reachable p l)
    (fits : p.window.nanos < Word.size 64) (quiet : ¬ l.Fired p) :
    InTime p (l.wait (.ofMillis 1)) := by
  obtain ⟨millis, now, soon⟩ := h.clock
  rw [wait_millis now]
  refine ⟨⟨millis + 1, rfl, fun running room => ?_⟩, h.departures⟩
  rw [reached.fired_iff fits now] at quiet
  exact Nat.lt_of_not_le fun late => quiet ⟨running, room, late⟩

theorem InTime.turn (h : InTime p l) {b : Burst α} (turn : Burst.Step l.burst b)
    (same : b.dispatched = l.burst.dispatched) : InTime p { l with burst := b } := by
  obtain ⟨millis, now, soon⟩ := h.clock
  refine ⟨⟨millis, now, fun _ room => ?_⟩, ?_⟩
  · rw [same] at room ⊢
    exact soon (Burst.running_of_step turn) room
  · rw [same]
    exact h.departures

theorem InTime.dispatch (h : InTime p l) (reached : Reachable p l)
    (fits : p.window.nanos < Word.size 64) (fired : l.Fired p) (a : α) :
    InTime p (l.dispatch a) := by
  obtain ⟨millis, now, soon⟩ := h.clock
  obtain ⟨running, room, late⟩ := (reached.fired_iff fits now).1 fired
  have slot : millis = p.slot l.burst.dispatched := Nat.le_antisymm (soon running room) late
  refine ⟨⟨millis, now, fun _ _ => ?_⟩, ?_⟩
  · rw [slot]
    exact p.slot_mono (Nat.le_succ _)
  · show (⟨l.burst.dispatched, l.now⟩ :: l.departures).reverse =
      (List.range (l.burst.dispatched + 1)).map p.departure
    rw [List.reverse_cons, h.departures, List.range_succ, List.map_append, now, slot]
    rfl

theorem InTime.step (h : InTime p l) (reached : Reachable p l)
    (fits : p.window.nanos < Word.size 64) (step : Step p l m) : InTime p m := by
  cases step with
  | tick quiet => exact h.tick reached fits quiet
  | turn turn same => exact h.turn turn same
  | dispatch a fired => exact h.dispatch reached fits fired a

theorem Reachable.inTime (h : Reachable p l) (fits : p.window.nanos < Word.size 64) :
    InTime p l := by
  induction h with
  | start => exact inTime_start p
  | step reached step ih => exact ih.step reached fits step

/-- A prompt loop is over, and it has not been stopped. -/
structure Over (p : Plan) (l : Paced α) : Prop where
  reached : Reachable p l
  halted : l.burst.running = false
  going : l.burst.stopped = false

theorem Over.departures_eq (h : Over p l) (fits : p.window.nanos < Word.size 64) :
    l.departures.reverse = (List.range p.requests).map p.departure := by
  have sent := (h.reached.paced.burst.accounted.complete h.halted h.going).1
  rw [(h.reached.inTime fits).departures, sent]

end Paced.Prompt

namespace Timeline

variable {c : Course} {t u : Timeline} {e : Timeline × Finish}

/-- A burst may come to an end without having been stopped. -/
structure Unstopped (c : Course) (e : Timeline × Finish) : Prop where
  ends : ∃ t, Reachable c t ∧ Ends c t e
  own : ∀ cause, e.2 ≠ .stopped cause

theorem unstopped_run (free : c.ending = none) : Unstopped c (run c (start c.plan.requests)) where
  ends := by
    obtain ⟨u, later, ends⟩ := exists_ends_run c _ .start
    exact ⟨u, Reachable.start.later later, ends⟩
  own cause stopped := by
    have ending := ending_of_stopped c _ stopped
    simp [free] at ending

theorem Unstopped.complete (h : Unstopped c e) (fits : c.plan.window.nanos < Word.size 64) :
    Reachable c e.1 ∧ e.1.burst.running = false := by
  obtain ⟨⟨t, reached, ends⟩, own⟩ := h
  cases ends with
  | complete halted => exact ⟨reached, halted⟩
  | stop => exact absurd rfl (own _)
  | told => exact absurd rfl (own _)
  | breakDown running next first far =>
    have room := reached.forward.quota ▸ dispatched_lt_of_nextDue next
    rw [Plan.plannable fits room rfl] at far
    cases far

theorem ofMillis_injective : Function.Injective Span.ofMillis := by
  intro a b same
  have nanos : a * 1000000 = b * 1000000 := congrArg Span.nanos same
  omega

theorem Unstopped.sentAt_eq (h : Unstopped c e) (fits : c.plan.window.nanos < Word.size 64) :
    e.1.sentAt.reverse = (List.range c.plan.requests).map c.plan.slot := by
  obtain ⟨reached, halted⟩ := h.complete fits
  obtain ⟨l, prompt, shows⟩ := reached.exists_prompt
  have ended : Paced.Prompt.Over c.plan l :=
    ⟨prompt, shows.burst ▸ halted, shows.burst ▸ reached.burst.2⟩
  have instants := congrArg (List.map Departure.instant) (ended.departures_eq fits)
  rw [shows.departures, List.map_reverse, map_instant_departuresOf, ← List.map_reverse,
    Plan.map_instant_departure] at instants
  exact List.map_injective_iff.2 ofMillis_injective instants

theorem sublist_arrive (c : Course) (arrivals : List Arrival)
    (now sentAt expiresAt followed : Nat) (url : Net.Url) :
    arrivals.Sublist (c.arrive arrivals now sentAt expiresAt followed url).2 := by
  unfold Course.arrive
  dsimp only
  split
  · exact .refl _
  · exact List.sublist_cons_self _ _

theorem sublist_turn (c : Course) (t : Timeline) (before after : List (Nat × Flight)) (k : Nat)
    (f : Flight) : t.arrivals.Sublist (turn c t before k f after).arrivals := by
  unfold turn
  split
  · exact .refl _
  · split
    · split
      · exact sublist_arrive ..
      · exact .refl _
    · exact .refl _

theorem arrivals_send {url : Net.Url} (endpoint : c.endpoint = some url)
    (reachable : unreachable? url url = none) (arrivals : List Arrival) (now : Nat) :
    ∃ seen, (c.send arrivals now).2 = seen :: arrivals ∧ seen.millis = now := by
  simp [Course.send, Course.arrive, endpoint, reachable]

/-- The target sees every request when it leaves, whatever else it sees in between. -/
theorem Reachable.sublist_arrivals (h : Reachable c t) {url : Net.Url}
    (endpoint : c.endpoint = some url) (reachable : unreachable? url url = none) :
    t.sentAt.Sublist (t.arrivals.map Arrival.millis) := by
  induction h with
  | start => exact .refl _
  | @step t u _ step ih =>
    cases step with
    | @turn before after k f running flights first =>
      rw [(dispatched_turn c t before after k f).2.2]
      exact ih.trans ((sublist_turn c t before after k f).map _)
    | dispatch running next =>
      obtain ⟨seen, arrivals, millis⟩ :=
        arrivals_send endpoint reachable t.arrivals (c.due t.burst.dispatched)
      show (c.due t.burst.dispatched :: t.sentAt).Sublist
        ((c.send t.arrivals (c.due t.burst.dispatched)).2.map Arrival.millis)
      rw [arrivals, List.map_cons, millis]
      exact ih.cons_cons _

end Timeline

namespace Paced.Prompt

variable {α β : Type} {p : Plan} {l : Paced α} {m : Paced β}

/-- Two loops have sent the same requests at the same instants, as far as both have come. -/
structure Agree (p : Plan) (l : Paced α) (m : Paced β) : Prop where
  common : ∀ k, k < l.burst.dispatched → k < m.burst.dispatched →
    l.departures.reverse[k]? = some (p.departure k) ∧
      m.departures.reverse[k]? = some (p.departure k)
  whole : Over p l → Over p m → l.departures = m.departures ∧ l.departures.length = p.requests

theorem InTime.departure_eq (h : InTime p l) {k : Nat} (sent : k < l.burst.dispatched) :
    l.departures.reverse[k]? = some (p.departure k) := by
  rw [h.departures, List.getElem?_map, List.getElem?_range sent]
  rfl

theorem Reachable.agree (first : Reachable p l) (second : Reachable p m)
    (fits : p.window.nanos < Word.size 64) : Agree p l m where
  common _ sent sent' :=
    ⟨(first.inTime fits).departure_eq sent, (second.inTime fits).departure_eq sent'⟩
  whole ended ended' := by
    have all := ended.departures_eq fits
    refine ⟨List.reverse_injective (all.trans (ended'.departures_eq fits).symm), ?_⟩
    simpa using congrArg List.length all

/-- Two runs of a plan send their requests at the same instants, whatever their targets do. Each
request leaves in its slot, the first whole millisecond that is not before its part of the window.
Answers may come in any order, before a dispatch or after it in the same millisecond, and none of
them delays a request, leaves one out or sends one twice. Two runs in virtual time that are not
stopped have sent the same requests in the same milliseconds, and a target that can be reached sees
them then. -/
theorem dispatches_ignore_target (fits : p.window.nanos < Word.size 64)
    (first : Reachable p l) (second : Reachable p m) :
    Agree p l m ∧
      (∀ start k,
        IsLeast {moment : ℕ | start * 1000000 + p.window.nanos * k / p.requests ≤ moment * 1000000}
          (start + p.slot k)) ∧
      ∀ (c d : Course) (e f : Timeline × Finish), c.plan = p → d.plan = p →
        Timeline.Unstopped c e → Timeline.Unstopped d f →
        e.1.sentAt = f.1.sentAt ∧ e.1.sentAt.reverse = (List.range p.requests).map p.slot ∧
          ∀ url, c.endpoint = some url → unreachable? url url = none →
            e.1.sentAt.Sublist (e.1.arrivals.map Arrival.millis) := by
  refine ⟨first.agree second fits, p.isLeast_slot, ?_⟩
  rintro c d e f rfl plan own own'
  have sent := own.sentAt_eq fits
  have sent' := own'.sentAt_eq (plan ▸ fits)
  rw [plan] at sent'
  exact ⟨List.reverse_injective (sent.trans sent'.symm), sent,
    fun _ endpoint reachable => (own.complete fits).1.sublist_arrivals endpoint reachable⟩

namespace Contrast

def plan : Plan := { requests := 3, window := .ofMillis 2, address := some "10.0.0.1" }

/-- The first request has left and is in flight. -/
def sent : Paced Unit := (Paced.start plan.requests).dispatch ()

/-- It is answered at once, in the millisecond in which it has left. -/
def answered : Paced Unit :=
  { sent with burst := sent.burst.finish [] [] 0 { latency := .zero, status := some 200 } }

def brisk : Paced Unit := (answered.wait (.ofMillis 1)).dispatch ()

/-- All requests have left, and none was answered. -/
def slow : Paced Unit :=
  (((sent.wait (.ofMillis 1)).dispatch ()).wait (.ofMillis 1)).dispatch ()

theorem reachable_sent : Reachable plan sent :=
  .step .start (.dispatch () ⟨rfl, by decide, by decide⟩)

theorem reachable_brisk : Reachable plan brisk := by
  have answered : Reachable plan answered := reachable_sent.step (.turn (.finish _ rfl rfl) rfl)
  have waited := answered.step (.tick fun fired => absurd fired.due (by decide))
  exact waited.step (.dispatch () ⟨rfl, by decide, by decide⟩)

theorem reachable_slow : Reachable plan slow := by
  have waited := reachable_sent.step (.tick fun fired => absurd fired.due (by decide))
  have second := waited.step (.dispatch () ⟨rfl, by decide, by decide⟩)
  have waited := second.step (.tick fun fired => absurd fired.due (by decide))
  exact waited.step (.dispatch () ⟨rfl, by decide, by decide⟩)

def url : Net.Url := { authority := { host := "10.0.0.1".toList }, path := ['/'] }

/-- A target that never answers, and one that fails at once. -/
def silent : Course :=
  { plan, endpoint := some url, target := fun _ => { breakdown := some .silent } }
def failing : Course := { plan, endpoint := some url, target := fun _ => { status := 503 } }

/-- They are sent the same requests in the same milliseconds. -/
theorem dispatches_ignore_silence :
    plan.window.nanos < Word.size 64 ∧ Reachable plan brisk ∧ Reachable plan slow ∧
      brisk.burst.recorded.length = 1 ∧ slow.burst.recorded.length = 0 ∧
      brisk.departures.reverse[1]? = slow.departures.reverse[1]? ∧
      (Timeline.run silent (.start 3)).1.sentAt = (Timeline.run failing (.start 3)).1.sentAt ∧
      (Timeline.run silent (.start 3)).1.sentAt.reverse = [0, 1, 2] := by
  have fits : plan.window.nanos < Word.size 64 := by decide
  obtain ⟨agree, -, same⟩ := dispatches_ignore_target fits reachable_brisk reachable_slow
  obtain ⟨own, other⟩ := agree.common 1 (by decide) (by decide)
  obtain ⟨equal, slots, -⟩ := same silent failing _ _ rfl rfl
    (Timeline.unstopped_run rfl) (Timeline.unstopped_run rfl)
  exact ⟨fits, reachable_brisk, reachable_slow, rfl, rfl, own.trans other.symm, equal,
    slots.trans (by decide)⟩

end Contrast
end Paced.Prompt
end WarmupGate.Warmup
