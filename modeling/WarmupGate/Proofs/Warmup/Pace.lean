import Mathlib.Data.List.Perm.Subperm
import Mathlib.Data.Rat.Floor
import WarmupGate.Proofs.Warmup.Prompt

/-!
# The engine keeps its pace

Requests leave in the order of their numbers, and none leaves before its part of the window has
begun, however the loop is held up in between. A loop that is behind may send several at once, but
never more than a loop that is on time would have sent by then. So the number of requests that have
left by any moment is bounded, whatever the requests in flight do. How far a loop may fall behind is
not bounded here.
-/
namespace WarmupGate.Warmup

/-- The requests whose part of the window has begun by a moment are the first ones. -/
theorem lt_ceil_of_div_le {window requests k t : Nat} (pos : 0 < window) (some : 0 < requests)
    (h : window * k / requests ≤ t) : k < ⌈((t + 1) * requests : ℚ) / window⌉₊ := by
  have begun : k * window < (t + 1) * requests := by
    rw [Nat.mul_comm k]
    exact (Nat.div_lt_iff_lt_mul some).1 (Nat.lt_succ_of_le h)
  rw [Nat.lt_ceil, lt_div_iff₀ (Nat.cast_pos.2 pos)]
  exact_mod_cast begun

/-- Requests leave in the order of their numbers, none before its part of the window, and no more by
any moment than a loop that is on time would have sent. -/
structure AtPace (p : Plan) (departures : List Departure) : Prop where
  numbers : departures.map Departure.number = (List.range departures.length).reverse
  ordered : departures.Pairwise fun newer older => older.instant.nanos ≤ newer.instant.nanos
  due : ∀ d ∈ departures, p.window.nanos * d.number / p.requests ≤ d.instant.nanos
  rate : ∀ t, departures.countP (fun d => decide (d.instant.nanos ≤ t)) ≤
    min p.requests ⌈((t + 1) * p.requests : ℚ) / p.window.nanos⌉₊

theorem countP_le_of_due {p : Plan} {departures : List Departure} (pos : 0 < p.window.nanos)
    (distinct : (departures.map Departure.number).Nodup)
    (planned : ∀ d ∈ departures, d.number < p.requests)
    (due : ∀ d ∈ departures, p.window.nanos * d.number / p.requests ≤ d.instant.nanos) (t : Nat) :
    departures.countP (fun d => decide (d.instant.nanos ≤ t)) ≤
      min p.requests ⌈((t + 1) * p.requests : ℚ) / p.window.nanos⌉₊ := by
  let gone := departures.filter fun d => decide (d.instant.nanos ≤ t)
  have first : gone.map Departure.number ⊆
      List.range (min p.requests ⌈((t + 1) * p.requests : ℚ) / p.window.nanos⌉₊) := by
    intro k hk
    obtain ⟨d, member, rfl⟩ := List.mem_map.1 hk
    obtain ⟨left, early⟩ := List.mem_filter.1 member
    have begun := Nat.le_trans (due d left) (of_decide_eq_true early)
    have small := planned d left
    exact List.mem_range.2
      (lt_min small (lt_ceil_of_div_le pos (Nat.lt_of_le_of_lt (Nat.zero_le _) small) begun))
  have once : (gone.map Departure.number).Nodup :=
    distinct.sublist (List.filter_sublist.map Departure.number)
  have bound := (once.subperm first).length_le
  rwa [List.length_map, List.length_range, ← List.countP_eq_length_filter] at bound

namespace Paced

variable {α : Type} {p : Plan} {l k : Paced α}

theorem Reachable.burst (h : Reachable p l) : Burst.Reachable p.requests l.burst := by
  induction h with
  | start => exact .start
  | step _ step ih =>
    cases step with
    | wait d => exact ih
    | turn turn same => exact ih.step turn
    | dispatch a running room due => exact ih.step (.dispatch a running room)

/-- The departures so far are those of the dispatched requests, in order, and none was early. -/
structure OnTime (p : Plan) (l : Paced α) : Prop where
  numbers : l.departures.map Departure.number = (List.range l.burst.dispatched).reverse
  ordered : l.departures.Pairwise fun newer older => older.instant.nanos ≤ newer.instant.nanos
  past : ∀ d ∈ l.departures, d.instant.nanos ≤ l.now.nanos
  due : ∀ d ∈ l.departures, (p.offset d.number).nanos ≤ d.instant.nanos

theorem onTime_start (p : Plan) : OnTime p (start p.requests : Paced α) where
  numbers := rfl
  ordered := .nil
  past _ member := absurd member List.not_mem_nil
  due _ member := absurd member List.not_mem_nil

theorem OnTime.dispatch (h : OnTime p l) (due : p.offset l.burst.dispatched ≤ l.now) (a : α) :
    OnTime p (l.dispatch a) where
  numbers := by
    simp only [Paced.dispatch, Burst.dispatch, List.map_cons, h.numbers, List.range_succ,
      List.reverse_append, List.reverse_singleton, List.singleton_append]
  ordered := .cons h.past h.ordered
  past := List.forall_mem_cons.2 ⟨Nat.le_refl _, h.past⟩
  due := List.forall_mem_cons.2 ⟨due, h.due⟩

theorem OnTime.step (h : OnTime p l) (step : Step p l k) : OnTime p k := by
  cases step with
  | wait d =>
    exact ⟨h.numbers, h.ordered,
      fun d member => Nat.le_trans (h.past d member) (Nat.le_add_right _ _), h.due⟩
  | turn turn same => exact ⟨same ▸ h.numbers, h.ordered, h.past, h.due⟩
  | dispatch a running room due => exact h.dispatch due a

theorem Reachable.onTime (h : Reachable p l) : OnTime p l := by
  induction h with
  | start => exact onTime_start p
  | step _ step ih => exact ih.step step

theorem OnTime.length_departures (h : OnTime p l) :
    l.departures.length = l.burst.dispatched := by
  simpa using congrArg List.length h.numbers

theorem Reachable.atPace (h : Reachable p l) (pos : 0 < p.window.nanos) :
    AtPace p l.departures := by
  have onTime := h.onTime
  have planned : ∀ d ∈ l.departures, d.number < p.requests := by
    intro d member
    have number := List.mem_map_of_mem (f := Departure.number) member
    rw [onTime.numbers, List.mem_reverse, List.mem_range] at number
    exact Nat.lt_of_lt_of_le number h.burst.accounted.dispatched_le
  have due : ∀ d ∈ l.departures, p.window.nanos * d.number / p.requests ≤ d.instant.nanos :=
    fun d member => Nat.le_trans (p.le_offset (planned d member)) (onTime.due d member)
  refine ⟨onTime.length_departures ▸ onTime.numbers, onTime.ordered, due, fun t => ?_⟩
  refine countP_le_of_due pos ?_ planned due t
  rw [onTime.numbers]
  exact (List.reverse_perm _).nodup_iff.2 List.nodup_range

end Paced

namespace Timeline

theorem atPace_run (c : Course) (pos : 0 < c.plan.window.nanos) :
    AtPace c.plan (departuresOf (run c (start c.plan.requests)).1.sentAt) := by
  obtain ⟨u, later, ends⟩ := exists_ends_run c _ .start
  obtain ⟨l, reached, shows⟩ := (Reachable.start.later later).exists_prompt
  rw [ends.sentAt, ← shows.departures]
  exact reached.paced.atPace pos

end Timeline

namespace Paced

variable {α : Type} {p : Plan} {l : Paced α}

theorem OnTime.countP_now (h : OnTime p l) :
    l.departures.countP (fun d => decide (d.instant.nanos ≤ l.now.nanos)) = l.burst.dispatched := by
  rw [List.countP_eq_length.2 fun d member => decide_eq_true (h.past d member),
    h.length_departures]

/-- In every state that the loop can come to, whatever the target does and however long the loop is
held up, requests have left in the order of their numbers, at instants in that order, none before
its part of the window. By any moment at most as many have left as parts have begun, rounded up, and
at most the quota. The same holds of every run in virtual time. -/
theorem departures_keep_pace (pos : 0 < p.window.nanos) (h : Reachable p l) :
    AtPace p l.departures ∧ l.departures.length = l.burst.dispatched ∧
      l.burst.dispatched ≤
        min p.requests ⌈((l.now.nanos + 1) * p.requests : ℚ) / p.window.nanos⌉₊ ∧
      ∀ c : Course, c.plan = p →
        AtPace p (departuresOf (Timeline.run c (.start p.requests)).1.sentAt) := by
  have pace := h.atPace pos
  refine ⟨pace, h.onTime.length_departures, h.onTime.countP_now ▸ pace.rate l.now.nanos, ?_⟩
  rintro c rfl
  exact Timeline.atPace_run c pos

namespace Behind

def plan : Plan := { requests := 3, address := some "10.0.0.1" }

/-- The loop is held up for half of the window, and sends two requests at once when it wakes. -/
def late : Paced Unit :=
  (((Paced.start plan.requests).wait (.ofSeconds 15)).dispatch ()).dispatch ()

theorem reachable_late : Reachable plan late := by
  have woken : Reachable plan ((Paced.start plan.requests : Paced Unit).wait (.ofSeconds 15)) :=
    .step .start (.wait (.ofSeconds 15))
  have first : Reachable plan _ := woken.step (.dispatch () rfl (by decide) (by decide))
  exact first.step (.dispatch () rfl (by decide) (by decide))

/-- It has caught up, and the bound is met but not passed. -/
theorem departures_keep_pace_when_late :
    0 < plan.window.nanos ∧ Reachable plan late ∧
      late.departures = [⟨1, .ofSeconds 15⟩, ⟨0, .ofSeconds 15⟩] ∧ late.burst.dispatched = 2 ∧
      late.burst.dispatched ≤ min 3 ⌈((15000000000 + 1) * 3 : ℚ) / 30000000000⌉₊ ∧
      ⌈((15000000000 + 1) * 3 : ℚ) / 30000000000⌉₊ = 2 := by
  have pos : 0 < plan.window.nanos := by decide
  obtain ⟨-, -, bound, -⟩ := departures_keep_pace pos reachable_late
  refine ⟨pos, reachable_late, rfl, rfl, ?_, ?_⟩
  · exact_mod_cast bound
  · rw [Nat.ceil_eq_iff (by decide)]
    norm_num

end Behind
end Paced

end WarmupGate.Warmup
