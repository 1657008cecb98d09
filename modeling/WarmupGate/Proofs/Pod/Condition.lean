import WarmupGate.Pod.Gate

/-!
# What an upsert leaves behind

After an upsert the first entry of the type says what the writer said. Entries of other types are
the same ones in the same order, so nothing that another writer has entered is lost. A pod that is
ready for its warmup has no entry that opens the gate, or one that does not say "True".
-/
namespace WarmupGate.Condition

theorem find?_cons (type : String) (c : Condition) (cs : List Condition) :
    find? type (c :: cs) = if c.type = type then some c else find? type cs := by
  by_cases h : c.type = type <;> simp [find?, h]

theorem find?_eq_none_iff {type : String} {cs : List Condition} :
    find? type cs = none ↔ ∀ e ∈ cs, e.type ≠ type := by
  simp [find?]

theorem find?_eq_some_iff_cut {type : String} {cs : List Condition} {c : Condition} :
    find? type cs = some c ↔ c.type = type ∧
      ∃ before after, cs = before ++ c :: after ∧ ∀ e ∈ before, e.type ≠ type := by
  simp [find?, List.find?_eq_some_iff_append]

theorem exists_find?_upsert (cs : List Condition) (c : Condition) :
    ∃ entry, find? c.type (upsert cs c) = some entry ∧ entry.status = c.status ∧
      entry.reason = c.reason ∧ entry.message = c.message ∧
      entry.lastTransition = c.lastTransition := by
  induction cs with
  | nil => exact ⟨c, by simp [upsert, find?_cons], rfl, rfl, rfl, rfl⟩
  | cons old rest ih =>
    by_cases h : old.type = c.type
    · refine ⟨takeOver old c, ?_, rfl, rfl, rfl, rfl⟩
      simp [upsert, h, find?_cons, takeOver]
    · obtain ⟨entry, found, agrees⟩ := ih
      refine ⟨entry, ?_, agrees⟩
      rw [upsert, if_neg h, find?_cons, if_neg h]
      exact found

/-- The type holds afterwards exactly if the writer says so. -/
theorem holds_upsert (cs : List Condition) (c : Condition) :
    holds c.type (upsert cs c) = c.isTrue := by
  obtain ⟨entry, found, status, -⟩ := exists_find?_upsert cs c
  simp [holds, found, isTrue, status]

theorem filter_upsert (cs : List Condition) (c : Condition) :
    (upsert cs c).filter (fun e => e.type ≠ c.type) = cs.filter (fun e => e.type ≠ c.type) := by
  induction cs with
  | nil => simp [upsert]
  | cons old rest ih =>
    by_cases h : old.type = c.type
    · simp [upsert, h, takeOver]
    · rw [upsert, if_neg h, List.filter_cons, List.filter_cons, ih]

end WarmupGate.Condition

namespace WarmupGate.Pod

theorem closed_of_ready {pod : Pod} (ready : pod.gateState = .ready) :
    pod.conditionHolds Key.warmupReady = false := by
  unfold gateState at ready
  split at ready
  · cases ready
  · split at ready
    · cases ready
    · simp_all

end WarmupGate.Pod
