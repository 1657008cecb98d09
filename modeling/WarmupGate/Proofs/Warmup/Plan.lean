import WarmupGate.Warmup.Plan

/-!
# The schedule of a plan

The parts of the window lie within it, and the requests are due one after the other, each when its
part begins. This holds of windows of any length; the last instant that can be counted in a word is
only passed by windows that are longer than five hundred years.
-/
namespace WarmupGate.Warmup.Plan

theorem part_le (p : Plan) {k : Nat} (h : k ≤ p.requests) :
    p.window.nanos * k / p.requests ≤ p.window.nanos := by
  refine Nat.div_le_of_le_mul ?_
  rw [Nat.mul_comm p.requests]
  exact Nat.mul_le_mul_left _ h

theorem offset_eq (p : Plan) (some : 0 < p.requests) (k : Nat) :
    (p.offset k).nanos =
      if p.window.nanos * k / p.requests < Word.size 64 then p.window.nanos * k / p.requests
      else p.window.nanos := by
  have parts : max 1 p.requests = p.requests := by omega
  simp only [offset, parts]
  split <;> rfl

/-- No request is due before its part of the window, rounded down to the nanosecond. -/
theorem le_offset (p : Plan) {k : Nat} (h : k < p.requests) :
    p.window.nanos * k / p.requests ≤ (p.offset k).nanos := by
  rw [p.offset_eq (Nat.zero_lt_of_lt h)]
  split
  · exact Nat.le_refl _
  · exact p.part_le (Nat.le_of_lt h)

theorem offset_mono (p : Plan) {k : Nat} (h : k < p.requests) :
    (p.offset k).nanos ≤ (p.offset (k + 1)).nanos := by
  have grows : p.window.nanos * k / p.requests ≤ p.window.nanos * (k + 1) / p.requests :=
    Nat.div_le_div_right (Nat.mul_le_mul_left _ (Nat.le_succ k))
  rw [p.offset_eq (Nat.zero_lt_of_lt h), p.offset_eq (Nat.zero_lt_of_lt h)]
  split
  · split
    · exact grows
    · exact p.part_le (Nat.le_of_lt h)
  · rename_i large
    have larger : ¬ p.window.nanos * (k + 1) / p.requests < Word.size 64 :=
      fun small => large (Nat.lt_of_le_of_lt grows small)
    simp only [if_neg larger, Nat.le_refl]

end WarmupGate.Warmup.Plan
