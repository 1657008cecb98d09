import Mathlib.Data.Finset.Lattice.Fold
import Mathlib.Data.Finset.Range
import Mathlib.Order.Lattice.Nat
import WarmupGate.Proofs.Warmup.Happenings

/-!
# Bursts against healthy targets

A target that answers every request in the 200s, within the time of one request and within the
scope. Then every request that leaves stays in flight until its answer is whole and ends as a
success, in whatever order the answers come, and however many requests overlap. So the scope ends
nothing, and the burst is over with the last answer. Nothing is said here about targets that fail
once.
-/
namespace WarmupGate.Warmup

/-- An answer is whole and in the 200s, and its last byte comes after a number of milliseconds. -/
structure Answer.Succeeds (a : Answer) (millis : Nat) : Prop where
  whole : a.breakdown = none
  low : 200 ≤ a.status
  high : a.status < 300
  time : millis = if a.bodiless || a.emptyBody then a.delay else a.delay + a.bodyDelay

theorem Answer.Succeeds.turn_eq {a : Answer} {millis : Nat} (h : a.Succeeds millis)
    (asked url : Net.Url) : a.turn asked url = some (millis, .ends (some a.status) none) := by
  have stays : a.redirects = false := by
    have := h.high
    simp only [redirects, List.contains_cons, List.contains_nil, Bool.or_false, Bool.or_eq_false_iff,
      beq_eq_false_iff_ne]
    omega
  have lead : a.lead? url = none := by simp [lead?, stays]
  rw [h.time, turn]
  cases bodiless : a.bodiless <;> cases emptyBody : a.emptyBody <;> simp [h.whole, lead]

variable {c : Course} {l : Nat → Nat} {t u : Timeline} {e : Timeline × Finish}

/-- The target answers request k in the 200s, whole after `l k` milliseconds, which is within the
time of the request; and every answer is whole before the scope ends. -/
structure Course.Healthy (c : Course) (l : Nat → Nat) : Prop where
  endpoint : ∃ url, c.endpoint = some url ∧ unreachable? url url = none
  answers : ∀ k < c.plan.requests, (c.target k).Succeeds (l k)
  timely : ∀ k < c.plan.requests, l k < c.plan.requestTimeout.ceilMillis
  inScope : ∀ e, c.ending = some e → 0 < e.1 ∧ ∀ k < c.plan.requests, c.due k + l k < e.1
  plannable : ∀ k ≤ c.plan.requests, c.unplannable k = false

def Course.lastAnswer (c : Course) (l : Nat → Nat) : Nat :=
  (Finset.range c.plan.requests).sup fun k => c.due k + l k

theorem Course.answer_le_lastAnswer {k : Nat} (room : k < c.plan.requests) :
    c.due k + l k ≤ c.lastAnswer l :=
  Finset.le_sup (f := fun k => c.due k + l k) (Finset.mem_range.2 room)

/-- A request in flight ends as a success at a time. -/
structure Flight.Succeeds (f : Flight) (millis : Nat) : Prop where
  turnAt : f.turnAt = millis
  turn : ∃ code, f.turn = .ends (some code) none ∧ 200 ≤ code ∧ code < 300

/-- A request that leaves a healthy burst reaches the target, and its answer is on the way. -/
theorem Course.Healthy.send (h : c.Healthy l) {arrivals : List Arrival}
    (room : arrivals.length < c.plan.requests) (now : Nat) :
    (c.send arrivals now).1.Succeeds (now + l arrivals.length) ∧
      (c.send arrivals now).2.length = arrivals.length + 1 := by
  obtain ⟨url, endpoint, open_⟩ := h.endpoint
  have answer := h.answers arrivals.length room
  have timely := h.timely arrivals.length room
  have flight : c.send arrivals now =
      ({ sentAt := now, expiresAt := now + c.plan.requestTimeout.ceilMillis, url
         turnAt := now + l arrivals.length
         turn := .ends (some (c.target arrivals.length).status) none },
        { millis := now, method := "GET", url, userAgent, marker := markerValue } :: arrivals) := by
    simp [Course.send, Course.arrive, endpoint, open_, answer.turn_eq, timely]
  rw [flight]
  exact ⟨⟨rfl, _, rfl, answer.low, answer.high⟩, rfl⟩

namespace Timeline

theorem turn_of_ends {before after : List (Nat × Flight)} {k : Nat} {f : Flight}
    {status : Option Nat} {error : Option String} (h : f.turn = .ends status error) :
    turn c t before k f after =
      { t with now := f.turnAt, burst := t.burst.finish before after k (f.hit status error) } := by
  simp [turn, h]

/-- All requests that have left were received, those in flight end as successes when their answers
are whole, and those recorded have done so. -/
structure Sound (c : Course) (l : Nat → Nat) (t : Timeline) : Prop where
  arrivals : t.arrivals.length = t.burst.dispatched
  flights : ∀ f ∈ t.burst.inFlight, f.1 < c.plan.requests ∧ f.2.Succeeds (c.due f.1 + l f.1)
  recorded : ∀ r ∈ t.burst.recorded, r.2.IsSuccess ∧ c.due r.1 + l r.1 ≤ t.now
  now_le : t.now ≤ c.lastAnswer l

theorem sound_start (c : Course) (l : Nat → Nat) (quota : Nat) : Sound c l (start quota) where
  arrivals := rfl
  flights _ none := nomatch none
  recorded _ none := nomatch none
  now_le := Nat.zero_le _

theorem Sound.turn (h : Sound c l t) {before after : List (Nat × Flight)} {k : Nat} {f : Flight}
    (flights : t.burst.inFlight = before ++ (k, f) :: after) (later : t.now ≤ f.turnAt) :
    Sound c l (turn c t before k f after) := by
  obtain ⟨room, turnAt, code, ends, low, high⟩ := h.flights (k, f) (by simp [flights])
  rw [turn_of_ends ends]
  refine ⟨h.arrivals, fun g member => h.flights g ?_, fun r member => ?_, ?_⟩
  · rw [flights]
    rcases List.mem_append.1 member with member | member <;> simp [member]
  · rcases List.mem_cons.1 member with rfl | member
    · exact ⟨⟨rfl, code, rfl, low, high⟩, Nat.le_of_eq turnAt.symm⟩
    · obtain ⟨success, past⟩ := h.recorded r member
      exact ⟨success, Nat.le_trans past later⟩
  · exact turnAt ▸ Course.answer_le_lastAnswer room

theorem Sound.dispatch (h : Sound c l t) (healthy : c.Healthy l)
    (room : t.burst.dispatched < c.plan.requests) (later : t.now ≤ c.due t.burst.dispatched) :
    Sound c l (dispatch c t) := by
  have sent := healthy.send (h.arrivals ▸ room) (c.due t.burst.dispatched)
  rw [h.arrivals] at sent
  refine ⟨sent.2, fun f member => ?_, fun r member => ?_, ?_⟩
  · rcases List.mem_append.1 member with member | member
    · exact h.flights f member
    · rw [List.mem_singleton.1 member]
      exact ⟨room, sent.1⟩
  · obtain ⟨success, past⟩ := h.recorded r member
    exact ⟨success, Nat.le_trans past later⟩
  · exact Nat.le_trans (Nat.le_add_right _ _) (Course.answer_le_lastAnswer room)

theorem Sound.step (h : Sound c l t) (healthy : c.Healthy l) (forward : Forward c t)
    (step : Step c t u) : Sound c l u := by
  cases step with
  | @turn before after k f running flights =>
    exact h.turn flights (forward.turns (k, f) (by simp [flights])).1
  | dispatch running next =>
    have room := dispatched_lt_of_nextDue next
    exact h.dispatch healthy (forward.quota ▸ room) (forward.due room)

theorem Reachable.sound (h : Reachable c t) (healthy : c.Healthy l) : Sound c l t := by
  induction h with
  | start => exact sound_start c l _
  | step reached step ih => exact ih.step healthy reached.forward step

/-- As long as a healthy burst goes on, something of it is still to happen before the scope ends. -/
theorem Sound.not_earliest (h : Sound c l t) (healthy : c.Healthy l) (forward : Forward c t)
    (running : t.burst.running = true) {last : Nat × Cause} (ending : c.ending = some last) :
    ¬ Earliest c t last.1 := by
  intro first
  obtain ⟨-, inScope⟩ := healthy.inScope last ending
  by_cases room : t.burst.dispatched < t.burst.quota
  · -- the request that is due next has not even been answered
    have due := first.due _ (if_pos room)
    have := inScope _ (forward.quota ▸ room)
    omega
  · cases flights : t.burst.inFlight with
    | nil => simp [Burst.running, room, flights] at running
    | cons f rest =>
      have member : f ∈ t.burst.inFlight := by simp [flights]
      obtain ⟨room, succeeds⟩ := h.flights f member
      have turn := first.turns f member
      rw [succeeds.turnAt] at turn
      have := inScope _ room
      omega

theorem Ends.complete_of_healthy (h : Ends c t e) (reached : Reachable c t)
    (healthy : c.Healthy l) : e = (t, .complete) ∧ t.burst.running = false := by
  have sound := reached.sound healthy
  have forward := reached.forward
  cases h with
  | complete halted => exact ⟨rfl, halted⟩
  | stop running ending first =>
    exact absurd first (sound.not_earliest healthy forward running ending)
  | told halted ending now =>
    -- the clock stands at the last answer at the latest, and that is before the end of the scope
    obtain ⟨pos, inScope⟩ := healthy.inScope _ ending
    have last : c.lastAnswer l < _ := (Finset.sup_lt_iff pos).2 fun k member =>
      inScope k (Finset.mem_range.1 member)
    have := sound.now_le
    omega
  | breakDown running next first far =>
    have room := dispatched_lt_of_nextDue next
    rw [healthy.plannable _ (forward.quota ▸ room)] at far
    cases far

/-- When a healthy burst is over, all requests are recorded as successes, and it is the millisecond
of the last answer. -/
theorem Reachable.all_succeeded (reached : Reachable c t) (healthy : c.Healthy l)
    (halted : t.burst.running = false) :
    t.burst.recorded.length = c.plan.requests ∧ (∀ r ∈ t.burst.recorded, r.2.IsSuccess) ∧
      t.now = c.lastAnswer l := by
  have sound := reached.sound healthy
  obtain ⟨burst, going⟩ := reached.burst
  have numbers := burst.accounted.recorded_perm halted going
  refine ⟨by simpa using numbers.length_eq, fun r member => (sound.recorded r member).1, ?_⟩
  refine Nat.le_antisymm sound.now_le (Finset.sup_le fun k member => ?_)
  -- the numbers of the records are all numbers, and no record is ahead of the clock
  have recorded : k ∈ t.burst.recorded.map Prod.fst :=
    numbers.mem_iff.2 (List.mem_range.2 (Finset.mem_range.1 member))
  obtain ⟨r, found, rfl⟩ := List.mem_map.1 recorded
  exact (sound.recorded r found).2

end Timeline
end WarmupGate.Warmup
