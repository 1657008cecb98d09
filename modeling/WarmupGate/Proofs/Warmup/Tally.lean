import WarmupGate.Warmup.Tally

/-!
# What a tally counts

Recording a hit adds one request, and one success if it is one. So a tally of hits counts them all,
and its failures are the ones that are no success; the subtraction in them loses nothing.
-/
namespace WarmupGate.Warmup

/-- The answer came without a transport error and has a status in the 200s. -/
def Hit.IsSuccess (h : Hit) : Prop :=
  h.error = none ∧ ∃ code, h.status = some code ∧ 200 ≤ code ∧ code < 300

theorem Hit.succeeded_iff (h : Hit) : h.succeeded = true ↔ h.IsSuccess := by
  simp [Hit.succeeded, Hit.IsSuccess, Option.any_eq_true]

instance (h : Hit) : Decidable h.IsSuccess := decidable_of_iff _ h.succeeded_iff

namespace Tally

@[simp] theorem requests_record (t : Tally) (h : Hit) :
    (t.record h).requests = t.requests + 1 := rfl

theorem requests_foldl (hits : List Hit) (t : Tally) :
    (hits.foldl record t).requests = t.requests + hits.length := by
  induction hits generalizing t with
  | nil => rfl
  | cons h hits ih =>
    rw [List.foldl_cons, ih, requests_record, List.length_cons]
    omega

theorem successes_foldl (hits : List Hit) (t : Tally) :
    (hits.foldl record t).successes =
      t.successes + hits.countP (fun h => decide h.IsSuccess) := by
  induction hits generalizing t with
  | nil => rfl
  | cons h hits ih =>
    rw [List.foldl_cons, ih, List.countP_cons]
    by_cases success : h.IsSuccess
    · have : (t.record h).successes = t.successes + 1 := if_pos (h.succeeded_iff.2 success)
      simp only [this, success, decide_true, if_true]
      omega
    · have : (t.record h).successes = t.successes :=
        if_neg (fun k => success (h.succeeded_iff.1 k))
      simp [this, success]

theorem requests_ofHits (hits : List Hit) : (ofHits hits).requests = hits.length := by
  rw [ofHits, requests_foldl]
  exact Nat.zero_add _

theorem successes_ofHits (hits : List Hit) :
    (ofHits hits).successes = hits.countP (fun h => decide h.IsSuccess) := by
  rw [ofHits, successes_foldl]
  exact Nat.zero_add _

theorem failures_ofHits (hits : List Hit) :
    (ofHits hits).failures = hits.countP (fun h => decide ¬ h.IsSuccess) := by
  have all := List.length_eq_countP_add_countP (fun h : Hit => decide h.IsSuccess) (l := hits)
  rw [failures, requests_ofHits, successes_ofHits, all]
  simp

end Tally
end WarmupGate.Warmup
