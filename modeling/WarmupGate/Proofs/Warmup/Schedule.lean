import Mathlib.Algebra.Order.Floor.Semifield
import Mathlib.Data.Nat.SuccPred
import Mathlib.Data.Rat.Floor
import Mathlib.Order.Interval.Set.Monotone
import WarmupGate.Proofs.Warmup.Overrides
import WarmupGate.Proofs.Warmup.Plan
import WarmupGate.Warmup.Timeline

/-!
# The schedule is exact

A request is due when its part of the window begins, rounded down to the nanosecond. Each instant is
rounded by itself, so nothing adds up over the window: no instant is a nanosecond off, and two that
follow each other are as far apart as a part is long, rounded down or up. This is said of windows
that fit into a word; beyond that the schedule is not even monotone. When requests really leave is
not said here.
-/
namespace WarmupGate.Warmup.Plan

variable {p : Plan} {k : Nat}

/-- The first whole millisecond in the part of the window that belongs to request k. -/
def slot (p : Plan) (k : Nat) : Nat := (⟨p.window.nanos * k / p.requests⟩ : Span).ceilMillis

section Fits
variable (fits : p.window.nanos < Word.size 64) (room : k ≤ p.requests)
include fits room

theorem part_lt : p.window.nanos * k / p.requests < Word.size 64 :=
  Nat.lt_of_le_of_lt (p.part_le room) fits

theorem offset_eq_part : (p.offset k).nanos = p.window.nanos * k / p.requests := by
  rcases Nat.eq_zero_or_pos p.requests with none | some
  · -- a plan without requests has only the first instant
    obtain rfl : k = 0 := by omega
    simp [offset, Word.size_64]
  · rw [p.offset_eq some, if_pos (part_lt fits room)]

theorem ceilMillis_offset : (p.offset k).ceilMillis = p.slot k := by
  rw [slot, Span.ceilMillis, Span.ceilMillis, offset_eq_part fits room]

theorem offset_lt_instantLimit : (p.offset k).nanos < instantLimit := by
  have limit : Word.size 64 ≤ instantLimit := by decide
  rw [offset_eq_part fits room]
  exact Nat.lt_of_lt_of_le (part_lt fits room) limit

theorem plannable {c : Course} (plan : c.plan = p) : c.unplannable k = false := by
  rw [Course.unplannable, plan]
  exact decide_eq_false (Nat.not_le.2 (offset_lt_instantLimit fits room))

end Fits

theorem InBounds.fits (h : InBounds p) : p.window.nanos < Word.size 64 :=
  Nat.lt_of_le_of_lt h.window.2 (by decide)

theorem InBounds.offset_eq (h : InBounds p) (room : k ≤ p.requests) :
    (p.offset k).nanos = p.window.nanos * k / p.requests := offset_eq_part h.fits room

/-- The instant at which part k of the window begins, exact to any fraction of a nanosecond. -/
def exactOffset (p : Plan) (k : Nat) : ℚ := p.window.nanos * k / p.requests

theorem floor_exactOffset (p : Plan) (k : Nat) :
    ⌊p.exactOffset k⌋₊ = p.window.nanos * k / p.requests := by
  rw [exactOffset, ← Nat.cast_mul, Nat.floor_div_eq_div]

theorem exactOffset_nonneg (p : Plan) (k : Nat) : 0 ≤ p.exactOffset k := by
  unfold exactOffset
  positivity

/-- A ratio that is not whole is rounded up to the next number. -/
theorem ceil_ratio {a n : Nat} (some : 0 < n) (rest : 0 < a % n) : ⌈(a : ℚ) / n⌉₊ = a / n + 1 := by
  have whole := Nat.div_add_mod a n
  have small := Nat.mod_lt a some
  have positive : (0 : ℚ) < n := Nat.cast_pos.2 some
  rw [Nat.ceil_eq_iff (Nat.succ_ne_zero _), Nat.succ_sub_one, lt_div_iff₀ positive,
    div_le_iff₀ positive]
  constructor
  · exact_mod_cast show a / n * n < a by rw [Nat.mul_comm]; omega
  · exact_mod_cast show a ≤ (a / n + 1) * n by rw [Nat.add_mul, Nat.mul_comm]; omega

/-- From one part to the next it is as long as a part, rounded down or up. -/
theorem part_succ (window requests k : Nat) (some : 0 < requests) :
    window * (k + 1) / requests = window * k / requests + ⌊(window : ℚ) / requests⌋₊ ∨
      window * (k + 1) / requests = window * k / requests + ⌈(window : ℚ) / requests⌉₊ := by
  rw [Nat.mul_succ, Nat.add_div some, Nat.floor_div_eq_div]
  split
  · rename_i carried
    have small := Nat.mod_lt (window * k) some
    have rest : 0 < window % requests := by omega
    exact .inr (by rw [ceil_ratio some rest, Nat.add_assoc])
  · exact .inl rfl

theorem part_mono (window requests : Nat) {j k : Nat} (le : j ≤ k) :
    window * j / requests ≤ window * k / requests :=
  Nat.div_le_div_right (Nat.mul_le_mul_left _ le)

theorem part_lt_part {window requests j k : Nat} (some : 0 < requests) (long : requests ≤ window)
    (lt : j < k) : window * j / requests < window * k / requests := by
  have next : window * j + requests ≤ window * k :=
    calc window * j + requests ≤ window * j + window := Nat.add_le_add_left long _
      _ = window * (j + 1) := (Nat.mul_succ _ _).symm
      _ ≤ window * k := Nat.mul_le_mul_left _ lt
  calc window * j / requests < window * j / requests + 1 := Nat.lt_succ_self _
    _ = (window * j + requests) / requests := (Nat.add_div_right _ some).symm
    _ ≤ window * k / requests := Nat.div_le_div_right next

theorem InBounds.product_lt (h : InBounds p) (room : k ≤ p.requests) :
    p.window.nanos * k < Word.size 128 := by
  have requests : k < Word.size 32 := by
    have most := h.requests.2
    have size := Word.size_32
    omega
  calc p.window.nanos * k ≤ Word.size 64 * Word.size 32 :=
        Nat.mul_le_mul (Nat.le_of_lt h.fits) (Nat.le_of_lt requests)
    _ < Word.size 128 := by decide

theorem InBounds.toNat_words (h : InBounds p) (room : k ≤ p.requests) :
    (BitVec.ofNat 128 p.window.nanos * BitVec.ofNat 128 k /
      BitVec.ofNat 128 (max 1 p.requests)).toNat = (p.offset k).nanos := by
  have wide : Word.size 128 = 2 ^ 128 := rfl
  have parts : max 1 p.requests = p.requests := Nat.max_eq_right h.requests.1
  have most := h.requests.2
  have window := h.fits
  have product := h.product_lt room
  have requests : p.requests < 2 ^ 128 := by
    have size := Word.size_32
    omega
  have nanos : p.window.nanos < 2 ^ 128 := by
    have size := Word.size_64
    omega
  rw [BitVec.toNat_udiv, BitVec.toNat_mul, BitVec.toNat_ofNat, BitVec.toNat_ofNat,
    BitVec.toNat_ofNat, parts, Nat.mod_eq_of_lt nanos, Nat.mod_eq_of_lt requests,
    Nat.mod_eq_of_lt (Nat.lt_of_le_of_lt room requests), Nat.mod_eq_of_lt (wide ▸ product),
    h.offset_eq room]

/-- The requests of a plan are due at even distances, each at its exact instant but for the rounding
to a nanosecond. -/
structure EvenlyDue (p : Plan) : Prop where
  /-- What is calculated on the way fits into words of 128 bits, and its result into 64. -/
  product_lt : ∀ k ≤ p.requests, p.window.nanos * k < Word.size 128
  quotient_lt : ∀ k ≤ p.requests, p.window.nanos * k / max 1 p.requests < Word.size 64
  words : ∀ k ≤ p.requests, (BitVec.ofNat 128 p.window.nanos * BitVec.ofNat 128 k /
    BitVec.ofNat 128 (max 1 p.requests)).toNat = (p.offset k).nanos
  first : p.offset 0 = .zero
  last : p.offset p.requests = p.window
  floor : ∀ k ≤ p.requests, (p.offset k).nanos = ⌊p.exactOffset k⌋₊
  near : ∀ k ≤ p.requests, ((p.offset k).nanos : ℚ) ≤ p.exactOffset k ∧
    p.exactOffset k < (p.offset k).nanos + 1
  mono : MonotoneOn (fun k => (p.offset k).nanos) (Set.Iic p.requests)
  inside : ∀ k < p.requests, p.offset k < p.window
  gap : ∀ k < p.requests,
    (p.offset (k + 1)).nanos = (p.offset k).nanos + ⌊(p.window.nanos : ℚ) / p.requests⌋₊ ∨
      (p.offset (k + 1)).nanos = (p.offset k).nanos + ⌈(p.window.nanos : ℚ) / p.requests⌉₊
  strict : StrictMonoOn (fun k => (p.offset k).nanos) (Set.Iic p.requests) ↔
    p.requests ≤ p.window.nanos

theorem InBounds.offset_last (h : InBounds p) : p.offset p.requests = p.window := by
  refine congrArg Span.mk (?_ : (p.offset p.requests).nanos = p.window.nanos)
  rw [h.offset_eq (Nat.le_refl _), Nat.mul_div_cancel _ h.requests.1]

theorem InBounds.offset_lt_window (h : InBounds p) (room : k < p.requests) :
    p.offset k < p.window := by
  show (p.offset k).nanos < p.window.nanos
  have least : Span.ofSeconds 1 ≤ p.window := h.window.1
  have positive : 0 < p.window.nanos := Nat.lt_of_lt_of_le (by decide) least
  rw [h.offset_eq (Nat.le_of_lt room), Nat.div_lt_iff_lt_mul h.requests.1]
  exact Nat.mul_lt_mul_of_pos_left room positive

theorem InBounds.strictMonoOn_offset_iff (h : InBounds p) :
    StrictMonoOn (fun k => (p.offset k).nanos) (Set.Iic p.requests) ↔
      p.requests ≤ p.window.nanos := by
  constructor
  · intro strict
    have last := strict.Iic_id_le p.requests (Nat.le_refl _)
    rwa [h.offset_last] at last
  · intro long j hj k hk lt
    simp only [h.offset_eq hj, h.offset_eq hk]
    exact part_lt_part h.requests.1 long lt

/-- The requests of every plan that a pod has are due at even distances, and nothing that is
calculated for them leaves its word. They are due one after the other exactly if the window has a
nanosecond for each. -/
theorem offsets_never_drift {pod : Pod} (resolved : resolve? (some pod) = .ok p) : EvenlyDue p := by
  have h := (resolve_eq_ok_iff.1 resolved).inBounds
  have some : 0 < p.requests := h.requests.1
  constructor
  case product_lt => exact fun _ room => h.product_lt room
  case quotient_lt =>
    rw [Nat.max_eq_right some]
    exact fun _ room => part_lt h.fits room
  case words => exact fun _ room => h.toNat_words room
  case first => exact congrArg Span.mk ((h.offset_eq (Nat.zero_le _)).trans (by simp))
  case last => exact h.offset_last
  case floor =>
    intro k room
    rw [h.offset_eq room, floor_exactOffset]
  case near =>
    intro k room
    rw [h.offset_eq room, ← floor_exactOffset]
    exact ⟨Nat.floor_le (p.exactOffset_nonneg k), Nat.lt_floor_add_one _⟩
  case mono =>
    intro j hj k hk le
    simp only [h.offset_eq hj, h.offset_eq hk]
    exact part_mono _ _ le
  case inside => exact fun _ room => h.offset_lt_window room
  case gap =>
    intro k room
    rw [h.offset_eq (Nat.le_of_lt room), h.offset_eq room]
    exact part_succ _ _ k some
  case strict => exact h.strictMonoOn_offset_iff

namespace Crowded

/-- A pod that asks for more requests than its window has nanoseconds. -/
def pod : Pod :=
  { metadata :=
      { annotations :=
          [(Pod.Key.requests, "4294967295"), (Pod.Key.duration, "1s"), (Pod.Key.port, "8080")] } }

def plan : Plan := { requests := 4294967295, window := .ofSeconds 1, port := 8080 }

theorem readWindow_second : readWindow "1s" = .ok (.ofSeconds 1) := by
  have second : Span.Component.Spells ⟨['1'], [], ['s']⟩ ['1', 's'] 1000000000 :=
    .intro (.whole (by decide) (by decide)) .second
  have means : Span.Means ['1', 's'] (.positive ⟨1000000000⟩) :=
    .sum .none (.last second) (by decide)
  exact readWindow_eq_ok_iff.2 ⟨Span.read_of_means means, by decide⟩

theorem resolve?_pod : resolve? (some pod) = .ok plan := by
  have window : overridden (override? pod Pod.Key.duration) readWindow ({} : Plan).window =
      .ok (.ofSeconds 1) := readWindow_second
  show resolve pod = .ok plan
  rw [resolve, window]
  rfl

/-- Some of its requests are due at the same instant, and the last one a nanosecond before the end.
-/
theorem offsets_never_drift_crowded :
    resolve? (some pod) = .ok plan ∧
      ¬ StrictMonoOn (fun k => (plan.offset k).nanos) (Set.Iic plan.requests) ∧
      plan.offset 4294967294 = ⟨999999999⟩ ∧ plan.offset 4294967294 < plan.window := by
  have resolved := resolve?_pod
  have even := offsets_never_drift resolved
  refine ⟨resolved, fun strict => absurd (even.strict.1 strict) (by decide), by decide, ?_⟩
  exact even.inside _ (by decide)

end Crowded

theorem nanos_clamp {low high : Span} (ordered : low ≤ high) (d : Span) :
    (Span.clamp low high d).nanos = max low.nanos (min high.nanos d.nanos) := by
  have le : low.nanos ≤ high.nanos := ordered
  unfold Span.clamp
  split
  · rename_i short
    have lt : d.nanos < low.nanos := short
    omega
  · split
    · rename_i long
      have lt : high.nanos < d.nanos := long
      omega
    · rename_i short long
      have : ¬ d.nanos < low.nanos := short
      have : ¬ high.nanos < d.nanos := long
      omega

/-- A request has the time of one part of the window, at least a second and at most ten. -/
theorem nanos_requestTimeout (p : Plan) (some : 0 < p.requests) :
    p.requestTimeout.nanos =
      max 1000000000 (min 10000000000 (p.window.nanos / p.requests)) := by
  rw [requestTimeout, nanos_clamp (by decide), Nat.max_eq_right some]
  rfl

theorem InBounds.requestTimeout_le (h : InBounds p) :
    p.requestTimeout.nanos ≤ min 10000000000 p.window.nanos := by
  have least : 1000000000 ≤ p.window.nanos := h.window.1
  have part := Nat.div_le_self p.window.nanos p.requests
  rw [p.nanos_requestTimeout h.requests.1]
  omega

/-- If the parts of the window have a second each, the time of a request is over when the next part
begins, or before. -/
theorem InBounds.offset_add_requestTimeout_le (h : InBounds p) (room : k < p.requests)
    (long : p.requests * 1000000000 ≤ p.window.nanos) :
    (p.offset k).nanos + p.requestTimeout.nanos ≤ (p.offset (k + 1)).nanos := by
  have some : 0 < p.requests := h.requests.1
  have second : 1000000000 ≤ p.window.nanos / p.requests := by
    rwa [Nat.le_div_iff_mul_le some, Nat.mul_comm]
  have time : p.requestTimeout.nanos ≤ p.window.nanos / p.requests := by
    rw [p.nanos_requestTimeout some]
    omega
  calc (p.offset k).nanos + p.requestTimeout.nanos
      ≤ p.window.nanos * k / p.requests + p.window.nanos / p.requests := by
        rw [h.offset_eq (Nat.le_of_lt room)]
        exact Nat.add_le_add_left time _
    _ ≤ (p.window.nanos * k + p.window.nanos) / p.requests := Nat.div_add_div_le_add_div
    _ = (p.offset (k + 1)).nanos := by rw [h.offset_eq room, Nat.mul_succ]

end WarmupGate.Warmup.Plan
