import WarmupGate.Warmup.Burst
import WarmupGate.Proofs.Warmup.Tally

/-!
# The accounts of a burst

Whatever the order of its turns, a burst loses no request and counts none twice: the numbers of the
recorded and of the pending requests are together the numbers of all that were dispatched. Only a
stop gives requests up, and it gives up exactly the pending ones. The invariant is `Accounted`; each
kind of turn preserves it, so it holds of every state that the loop can come to.
-/
namespace WarmupGate.Warmup.Burst

variable {α : Type}

/-- The numbers of the requests that are recorded or in flight. -/
def numbers (b : Burst α) : List Nat := b.recorded.map Prod.fst ++ b.inFlight.map Prod.fst

/-- Every dispatched request is recorded, in flight or given up by a stop, and only one of these. -/
structure Accounted (quota : Nat) (b : Burst α) : Prop where
  quota_eq : b.quota = quota
  dispatched_le : b.dispatched ≤ quota
  numbers_perm : ∃ lost, (b.stopped = false → lost = []) ∧
    (b.numbers ++ lost).Perm (List.range b.dispatched)
  samples_eq : b.samples = b.recorded.map fun r => r.2.latency

theorem accounted_start (quota : Nat) : (start quota : Burst α).Accounted quota where
  quota_eq := rfl
  dispatched_le := Nat.zero_le quota
  numbers_perm := ⟨[], fun _ => rfl, .refl _⟩
  samples_eq := rfl

theorem stopped_of_running {b : Burst α} (h : b.running = true) : b.stopped = false := by
  simpa using (Bool.and_eq_true_iff.1 h).1

variable {quota : Nat} {b : Burst α}

theorem Accounted.perm (h : b.Accounted quota) (going : b.stopped = false) :
    b.numbers.Perm (List.range b.dispatched) := by
  obtain ⟨lost, none, perm⟩ := h.numbers_perm
  rwa [none going, List.append_nil] at perm

theorem Accounted.stop (h : b.Accounted quota) (running : b.running = true) :
    b.stop.Accounted quota where
  quota_eq := h.quota_eq
  dispatched_le := h.dispatched_le
  numbers_perm := by
    refine ⟨b.inFlight.map Prod.fst, (nomatch ·), ?_⟩
    simpa [numbers, Burst.stop] using h.perm (stopped_of_running running)
  samples_eq := h.samples_eq

theorem Accounted.finish (h : b.Accounted quota) (running : b.running = true)
    {before after : List (Nat × α)} {k : Nat} {a : α}
    (flights : b.inFlight = before ++ (k, a) :: after) (hit : Hit) :
    (b.finish before after k hit).Accounted quota where
  quota_eq := h.quota_eq
  dispatched_le := h.dispatched_le
  numbers_perm := by
    refine ⟨[], fun _ => rfl, ?_⟩
    have perm := h.perm (stopped_of_running running)
    simp only [numbers, flights, List.map_append, List.map_cons] at perm
    simp only [numbers, Burst.finish, List.map_append, List.map_cons, List.append_nil]
    -- the number moves from the middle of the flights to the front of the records
    rw [← List.append_assoc] at perm
    rw [List.cons_append, ← List.append_assoc]
    exact List.perm_middle.symm.trans perm
  samples_eq := by simp [Burst.finish, h.samples_eq]

theorem Accounted.dispatch (h : b.Accounted quota) (running : b.running = true)
    (room : b.dispatched < b.quota) (a : α) : (b.dispatch a).Accounted quota where
  quota_eq := h.quota_eq
  dispatched_le := h.quota_eq ▸ room
  numbers_perm := by
    refine ⟨[], fun _ => rfl, ?_⟩
    have perm := h.perm (stopped_of_running running)
    simp only [numbers, Burst.dispatch, List.map_append, List.map_cons, List.map_nil,
      List.append_nil, List.range_succ]
    rw [← List.append_assoc]
    exact perm.append_right _
  samples_eq := h.samples_eq

theorem Accounted.revise (h : b.Accounted quota) (running : b.running = true)
    {before after : List (Nat × α)} {k : Nat} {old : α}
    (flights : b.inFlight = before ++ (k, old) :: after) (new : α) :
    (b.revise before after k new).Accounted quota where
  quota_eq := h.quota_eq
  dispatched_le := h.dispatched_le
  numbers_perm := by
    refine ⟨[], fun _ => rfl, ?_⟩
    have perm := h.perm (stopped_of_running running)
    simpa [numbers, Burst.revise, flights] using perm
  samples_eq := h.samples_eq

theorem Accounted.step {c : Burst α} (h : b.Accounted quota) (turn : Step b c) :
    c.Accounted quota := by
  cases turn with
  | stop running => exact h.stop running
  | finish hit running flights => exact h.finish running flights hit
  | dispatch a running room => exact h.dispatch running room a
  | revise new running flights => exact h.revise running flights new

theorem Reachable.accounted (h : Reachable quota b) : b.Accounted quota := by
  induction h with
  | start => exact accounted_start quota
  | step _ turn ih => exact ih.step turn

/-- A burst that is over and was not stopped has sent its quota and has nothing in flight. -/
theorem Accounted.complete (h : b.Accounted quota) (halted : b.running = false)
    (going : b.stopped = false) : b.dispatched = quota ∧ b.inFlight = [] := by
  simp only [running, going, Bool.not_false, Bool.true_and, Bool.or_eq_false_iff,
    decide_eq_false_iff_not, Bool.not_eq_false', List.isEmpty_iff, h.quota_eq] at halted
  exact ⟨by have := h.dispatched_le; omega, halted.2⟩

theorem Accounted.recorded_perm (h : b.Accounted quota) (halted : b.running = false)
    (going : b.stopped = false) : (b.recorded.map Prod.fst).Perm (List.range quota) := by
  obtain ⟨dispatched, flights⟩ := h.complete halted going
  simpa [numbers, flights, dispatched] using h.perm going

theorem running_of_step {c : Burst α} (h : Step b c) : b.running = true := by
  cases h <;> assumption

@[simp] theorem quota_dispatch (b : Burst α) (a : α) : (b.dispatch a).quota = b.quota := rfl

@[simp] theorem stop_stop (b : Burst α) : b.stop.stop = b.stop := rfl

theorem Reachable.inFlight_of_stopped (h : Reachable quota b) (stopped : b.stopped = true) :
    b.inFlight = [] := by
  induction h with
  | start => cases stopped
  | @step b c _ turn _ =>
    have going := stopped_of_running (running_of_step turn)
    cases turn with
    | stop running => rfl
    | finish hit running flights => exact absurd (going.symm.trans stopped) Bool.false_ne_true
    | dispatch a running room => exact absurd (going.symm.trans stopped) Bool.false_ne_true
    | revise new running flights => exact absurd (going.symm.trans stopped) Bool.false_ne_true

theorem Reachable.inFlight_of_halted (h : Reachable quota b) (halted : b.running = false) :
    b.inFlight = [] := by
  cases stopped : b.stopped with
  | true => exact h.inFlight_of_stopped stopped
  | false => exact (h.accounted.complete halted stopped).2

theorem Accounted.recorded_le (h : b.Accounted quota) : b.recorded.length ≤ b.dispatched := by
  obtain ⟨lost, -, perm⟩ := h.numbers_perm
  have all := perm.length_eq
  simp only [numbers, List.length_append, List.length_map, List.length_range] at all
  omega

theorem tally_counts (b : Burst α) :
    b.tally.requests = b.recorded.length ∧
      b.tally.successes = b.recorded.countP (fun r => decide r.2.IsSuccess) ∧
      b.tally.failures = b.recorded.countP (fun r => decide ¬ r.2.IsSuccess) := by
  simp [tally, Tally.requests_ofHits, Tally.successes_ofHits, Tally.failures_ofHits,
    List.countP_map, List.countP_reverse, Function.comp_def]

/-- In every state that the loop can come to, whatever the order of its turns: no more is dispatched
than the quota; every dispatched request is recorded, in flight or given up by a stop, and only one
of these; the tally counts the records, so as long as nothing stops the loop the tally and the
flights add up; and every record has brought one sample, with its latency. A loop that ends without
a stop has dispatched its quota and recorded each request once, and its tally counts just these. -/
theorem accounts_of_reachable (h : Reachable quota b) :
    b.dispatched ≤ quota ∧
      (∃ lost, (b.stopped = false → lost = []) ∧
        (b.recorded.map Prod.fst ++ b.inFlight.map Prod.fst ++ lost).Perm
          (List.range b.dispatched)) ∧
      b.tally.requests = b.recorded.length ∧
      (b.stopped = false → b.tally.requests + b.inFlight.length = b.dispatched) ∧
      (b.recorded.map Prod.fst).Nodup ∧
      b.samples = b.recorded.map (fun r => r.2.latency) ∧
      (b.running = false → b.stopped = false →
        b.dispatched = quota ∧ (b.recorded.map Prod.fst).Perm (List.range quota) ∧
        b.tally.requests = quota ∧
        b.tally.successes = b.recorded.countP (fun r => decide r.2.IsSuccess) ∧
        b.tally.failures = b.recorded.countP (fun r => decide ¬ r.2.IsSuccess)) := by
  have accounted := h.accounted
  obtain ⟨lost, none, perm⟩ := accounted.numbers_perm
  obtain ⟨requests, successes, failures⟩ := b.tally_counts
  refine ⟨accounted.dispatched_le, ⟨lost, none, perm⟩, requests, ?_, ?_, accounted.samples_eq, ?_⟩
  · intro going
    simpa [numbers, requests] using (accounted.perm going).length_eq
  · have nodup := perm.nodup_iff.2 List.nodup_range
    exact (List.nodup_append.1 (List.nodup_append.1 nodup).1).1
  · intro halted going
    obtain ⟨dispatched, flights⟩ := accounted.complete halted going
    have all := accounted.perm going
    simp only [numbers, flights, dispatched, List.map_nil, List.append_nil] at all
    refine ⟨dispatched, all, ?_, successes, failures⟩
    simpa [requests] using all.length_eq

/-- Two requests overlap, and the later one ends first. -/
def overtaken : Burst Unit :=
  ((((start 2).dispatch ()).dispatch ()).finish [(0, ())] [] 1
    { latency := .ofMillis 5, status := some 200 }).finish [] [] 0
    { latency := .ofMillis 90, status := some 503 }

theorem reachable_overtaken : Reachable 2 overtaken :=
  .step (.step (.step (.step .start (.dispatch () rfl (by decide))) (.dispatch () rfl (by decide)))
    (.finish _ rfl rfl)) (.finish _ rfl rfl)

theorem accounts_of_overtaken :
    Reachable 2 overtaken ∧ overtaken.running = false ∧ overtaken.stopped = false ∧
      (overtaken.recorded.map Prod.fst).Perm (List.range 2) ∧
      overtaken.samples = [.ofMillis 90, .ofMillis 5] ∧ overtaken.tally.requests = 2 ∧
      overtaken.tally.successes = 1 ∧ overtaken.tally.failures = 1 := by
  obtain ⟨-, -, -, -, -, samples, complete⟩ := accounts_of_reachable reachable_overtaken
  obtain ⟨-, all, requests, successes, failures⟩ := complete rfl rfl
  exact ⟨reachable_overtaken, rfl, rfl, all, samples, requests,
    successes.trans (by decide), failures.trans (by decide)⟩

end WarmupGate.Warmup.Burst
