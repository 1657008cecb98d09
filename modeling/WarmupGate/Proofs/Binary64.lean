import Mathlib.Algebra.Order.Field.Power
import Mathlib.Data.Int.Log
import Mathlib.Data.Rat.Floor
import Mathlib.Tactic.Linarith
import Mathlib.Tactic.Positivity
import WarmupGate.Binary64

/-!
# Rounding keeps the order

A larger rational is never rounded to a smaller value of double precision. Where two rationals have
the same last bit this is the order of rounded integers; where they do not, a power of two that
needs no rounding stands between them. How far off a rounded value can be is not said here.
-/
namespace WarmupGate.Binary64

variable {x y : ℚ}

theorem pow2_eq_zpow (k : ℤ) : pow2 k = (2 : ℚ) ^ k := by
  unfold pow2
  split
  · rename_i nonneg
    obtain ⟨n, rfl⟩ := Int.eq_ofNat_of_zero_le nonneg
    simp
  · rename_i negative
    obtain ⟨n, rfl⟩ : ∃ n : ℕ, k = -n := ⟨(-k).toNat, by omega⟩
    simp

/-- The leading bits of a numerator and a denominator leave two exponents to choose from. -/
theorem zpow_log2_bounds (pos : 0 < x) :
    (2 : ℚ) ^ ((x.num.natAbs.log2 : ℤ) - x.den.log2 - 1) ≤ x ∧
      x < (2 : ℚ) ^ ((x.num.natAbs.log2 : ℤ) - x.den.log2 + 1) := by
  have num_pos : 0 < x.num := Rat.num_pos.2 pos
  have num_cast : ((x.num.natAbs : ℕ) : ℚ) = x.num := by
    rw [← Int.cast_natCast, Int.natAbs_of_nonneg num_pos.le]
  have quotient : x = x.num.natAbs / x.den := by rw [num_cast, Rat.num_div_den]
  have den_pos : (0 : ℚ) < x.den := by exact_mod_cast x.den_pos
  have num_low : (2 : ℚ) ^ x.num.natAbs.log2 ≤ x.num.natAbs := by
    exact_mod_cast Nat.log2_self_le (by omega)
  have num_high : (x.num.natAbs : ℚ) < 2 ^ (x.num.natAbs.log2 + 1) := by
    exact_mod_cast Nat.lt_log2_self
  have den_low : (2 : ℚ) ^ x.den.log2 ≤ x.den := by
    exact_mod_cast Nat.log2_self_le x.den_pos.ne'
  have den_high : (x.den : ℚ) < 2 ^ (x.den.log2 + 1) := by exact_mod_cast Nat.lt_log2_self
  generalize x.num.natAbs.log2 = a at *
  generalize x.den.log2 = b at *
  have two : (2 : ℚ) ≠ 0 := two_ne_zero
  constructor
  · calc (2 : ℚ) ^ ((a : ℤ) - b - 1) = 2 ^ a / 2 ^ (b + 1) := by
          rw [sub_sub, zpow_sub₀ two, zpow_natCast, ← Nat.cast_succ, zpow_natCast]
      _ ≤ x.num.natAbs / x.den := by gcongr
      _ = x := quotient.symm
  · calc x = x.num.natAbs / x.den := quotient
      _ < 2 ^ (a + 1) / 2 ^ b := by gcongr
      _ = (2 : ℚ) ^ ((a : ℤ) - b + 1) := by
          rw [sub_add_eq_add_sub, zpow_sub₀ two, zpow_natCast, ← Nat.cast_succ, zpow_natCast]

theorem leadingExponent_eq_log (pos : 0 < x) : leadingExponent x = Int.log 2 x := by
  obtain ⟨low, high⟩ := zpow_log2_bounds pos
  have one_lt : 1 < 2 := one_lt_two
  have low' := (Int.zpow_le_iff_le_log one_lt pos).1 low
  have high' := (Int.lt_zpow_iff_log_lt one_lt pos).1 high
  simp only [leadingExponent]
  split
  · rename_i reached
    rw [pow2_eq_zpow] at reached
    have := (Int.zpow_le_iff_le_log one_lt pos).1 reached
    omega
  · rename_i missed
    rw [pow2_eq_zpow, not_le] at missed
    have := (Int.lt_zpow_iff_log_lt one_lt pos).1 missed
    omega

theorem floor_le_roundHalfEven (x : ℚ) : x.floor ≤ roundHalfEven x := by
  unfold roundHalfEven
  grind

theorem roundHalfEven_le_floor_add_one (x : ℚ) : roundHalfEven x ≤ x.floor + 1 := by
  unfold roundHalfEven
  grind

theorem roundHalfEven_mono (le : x ≤ y) : roundHalfEven x ≤ roundHalfEven y := by
  have floors : x.floor ≤ y.floor := Rat.floor_monotone le
  by_cases same : x.floor = y.floor
  · -- with one floor, the larger number has the larger rest
    unfold roundHalfEven
    grind
  · calc roundHalfEven x ≤ x.floor + 1 := roundHalfEven_le_floor_add_one x
      _ ≤ y.floor := by omega
      _ ≤ roundHalfEven y := floor_le_roundHalfEven y

theorem roundHalfEven_intCast (n : ℤ) : roundHalfEven n = n := by
  simp [roundHalfEven, Rat.floor_intCast]

theorem roundHalfEven_le {n : ℤ} (le : x ≤ n) : roundHalfEven x ≤ n := by
  rw [← roundHalfEven_intCast n]
  exact roundHalfEven_mono le

theorem le_roundHalfEven {n : ℤ} (le : n ≤ x) : n ≤ roundHalfEven x := by
  rw [← roundHalfEven_intCast n]
  exact roundHalfEven_mono le

theorem nearestPositive_eq (x : ℚ) :
    nearestPositive x =
      roundHalfEven (x / (2 : ℚ) ^ lastExponent x) * (2 : ℚ) ^ lastExponent x := by
  rw [nearestPositive, pow2_eq_zpow]

theorem exists_zpow_eq_mul {e k : ℤ} (le : e ≤ k) :
    ∃ m : ℤ, (2 : ℚ) ^ k = m * (2 : ℚ) ^ e := by
  obtain ⟨n, rfl⟩ := Int.le.dest le
  refine ⟨2 ^ n, ?_⟩
  rw [zpow_add₀ two_ne_zero, zpow_natCast, mul_comm]
  norm_cast

/-- Up to a power of two that is a multiple of the last bit, no value is rounded above it. -/
theorem nearestPositive_le_zpow {k : ℤ} (le : x ≤ (2 : ℚ) ^ k) (whole : lastExponent x ≤ k) :
    nearestPositive x ≤ (2 : ℚ) ^ k := by
  obtain ⟨m, power⟩ := exists_zpow_eq_mul whole
  have unit : (0 : ℚ) < 2 ^ lastExponent x := zpow_pos two_pos _
  rw [power] at le ⊢
  rw [nearestPositive_eq]
  gcongr
  exact roundHalfEven_le ((div_le_iff₀ unit).2 le)

theorem zpow_le_nearestPositive {k : ℤ} (le : (2 : ℚ) ^ k ≤ x) (whole : lastExponent x ≤ k) :
    (2 : ℚ) ^ k ≤ nearestPositive x := by
  obtain ⟨m, power⟩ := exists_zpow_eq_mul whole
  have unit : (0 : ℚ) < 2 ^ lastExponent x := zpow_pos two_pos _
  rw [power] at le ⊢
  rw [nearestPositive_eq]
  gcongr
  exact le_roundHalfEven ((le_div_iff₀ unit).2 le)

theorem nearestPositive_mono (pos : 0 < x) (le : x ≤ y) :
    nearestPositive x ≤ nearestPositive y := by
  have logs : Int.log 2 x ≤ Int.log 2 y := Int.log_mono_right pos le
  have last_x : lastExponent x = max (Int.log 2 x - 52) (-1074) := by
    rw [lastExponent, leadingExponent_eq_log pos]
  have last_y : lastExponent y = max (Int.log 2 y - 52) (-1074) := by
    rw [lastExponent, leadingExponent_eq_log (pos.trans_le le)]
  by_cases same : lastExponent x = lastExponent y
  · rw [nearestPositive_eq, nearestPositive_eq, same]
    gcongr
    apply roundHalfEven_mono
    gcongr
  · -- the last bit of `y` is that of its leading bit, which `x` does not reach
    have above : (2 : ℚ) ^ Int.log 2 y ≤ y := Int.zpow_log_le_self one_lt_two (pos.trans_le le)
    have below : x ≤ (2 : ℚ) ^ Int.log 2 y :=
      ((Int.lt_zpow_iff_log_lt one_lt_two pos).2 (by omega)).le
    exact (nearestPositive_le_zpow below (by omega)).trans
      (zpow_le_nearestPositive above (by omega))

theorem nearestPositive_nonneg (pos : 0 < x) : 0 ≤ nearestPositive x := by
  have unit : (0 : ℚ) < 2 ^ lastExponent x := zpow_pos two_pos _
  have rounded : 0 ≤ roundHalfEven (x / 2 ^ lastExponent x) :=
    le_roundHalfEven (by exact_mod_cast (div_pos pos unit).le)
  rw [nearestPositive_eq]
  positivity

/-- A larger rational is never rounded to a smaller value. -/
theorem nearest_mono (le : x ≤ y) : nearest x ≤ nearest y := by
  rcases lt_trichotomy x 0 with neg_x | rfl | pos_x
  · rw [nearest, if_neg neg_x.ne, if_pos neg_x]
    have down := nearestPositive_nonneg (neg_pos.2 neg_x)
    rcases lt_trichotomy y 0 with neg_y | rfl | pos_y
    · rw [nearest, if_neg neg_y.ne, if_pos neg_y]
      exact neg_le_neg (nearestPositive_mono (neg_pos.2 neg_y) (neg_le_neg le))
    · rw [nearest, if_pos rfl]
      linarith
    · rw [nearest, if_neg pos_y.ne', if_neg pos_y.not_gt]
      linarith [nearestPositive_nonneg pos_y]
  · rw [nearest, if_pos rfl]
    rcases le.eq_or_lt with rfl | pos_y
    · rw [nearest, if_pos rfl]
    · rw [nearest, if_neg pos_y.ne', if_neg pos_y.not_gt]
      exact nearestPositive_nonneg pos_y
  · have pos_y := pos_x.trans_le le
    rw [nearest, nearest, if_neg pos_x.ne', if_neg pos_x.not_gt, if_neg pos_y.ne',
      if_neg pos_y.not_gt]
    exact nearestPositive_mono pos_x le

end WarmupGate.Binary64
