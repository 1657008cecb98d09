import Mathlib
import WarmupGate.Proofs.Span.Overflow

/-!
# What is lost behind the eighteenth place

A component stands for a rational number of nanoseconds, and what is read of it is the floor of that
number, although only eighteen places of the fraction are looked at: the units up to the second
divide ten to the eighteenth, so the places behind them cannot reach the next nanosecond. Minutes
and hours do not, and there the cut may cost one nanosecond. Nothing is said of a component that an
unchecked build takes although its value leaves the wide words.
-/
namespace WarmupGate.Span

variable {s fraction : List Char} {c : Component} {n v scale : Nat}

/-- The number of units that a component is written as. -/
def Component.amount (c : Component) : ℚ :=
  Text.digitsValue c.whole + Text.digitsValue c.fraction / Text.tenPower c.fraction.length

/-- The nanoseconds of a fraction of any length, rounded down. -/
def fullFractionNanos (scale : Nat) (fraction : List Char) : Nat :=
  Text.digitsValue fraction * scale / Text.tenPower fraction.length

theorem fractionNanos_eq_of_length_le (short : fraction.length ≤ 18) :
    fractionNanos scale fraction = fullFractionNanos scale fraction := by
  rw [fractionNanos, fullFractionNanos, List.take_of_length_le short]

theorem exists_cut (digits : Text.Digits fraction) (long : 18 < fraction.length) :
    ∃ rest power, rest < power ∧ Text.tenPower fraction.length = Text.tenPower 18 * power ∧
      (fraction.take 18).length = 18 ∧
      Text.digitsValue fraction = Text.digitsValue (fraction.take 18) * power + rest := by
  refine ⟨Text.digitsValue (fraction.drop 18), Text.tenPower (fraction.drop 18).length,
    Text.digitsValue_lt fun x hx => digits x (List.mem_of_mem_drop hx), ?_,
    List.length_take_of_le (Nat.le_of_lt long), ?_⟩
  · rw [List.length_drop]
    exact (Nat.pow_sub_mul_pow 10 (Nat.le_of_lt long)).symm.trans (Nat.mul_comm _ _)
  · rw [← Text.digitsValue_append, List.take_append_drop]

/-- Where a scale divides the base of the places that are kept, a cut does not change a floor. -/
theorem floor_cut_of_dvd {value rest power base : Nat} (small : rest < power) (some : 0 < scale)
    (divides : scale ∣ base) :
    value * scale / base = (value * power + rest) * scale / (base * power) := by
  -- the scale cancels on both sides, and what is left are whole parts
  obtain ⟨parts, rfl⟩ := divides
  calc value * scale / (scale * parts)
      = value / parts := by rw [Nat.mul_comm, Nat.mul_div_mul_left _ _ some]
    _ = (value * power + rest) / power / parts := by
        rw [Nat.mul_comm value, Nat.mul_add_div (Nat.zero_lt_of_lt small),
          Nat.div_eq_of_lt small, Nat.add_zero]
    _ = (value * power + rest) * scale / (scale * parts * power) := by
        rw [Nat.div_div_eq_div_mul, Nat.mul_comm _ scale, Nat.mul_assoc scale,
          Nat.mul_div_mul_left _ _ some, Nat.mul_comm power]

/-- A cut makes a floor less by one at the most, as long as a scale is not above the base of the
places that are kept. -/
theorem floor_cut_cases {value rest power base : Nat} (small : rest < power) (some : 0 < base)
    (bound : scale ≤ base) :
    (value * power + rest) * scale / (base * power) = value * scale / base ∨
      (value * power + rest) * scale / (base * power) = value * scale / base + 1 := by
  have positive : 0 < power := Nat.zero_lt_of_lt small
  have lower : value * scale / base ≤ (value * power + rest) * scale / (base * power) := by
    calc value * scale / base
        = value * scale * power / (base * power) := (Nat.mul_div_mul_right _ _ positive).symm
      _ ≤ (value * power + rest) * scale / (base * power) := by
          apply Nat.div_le_div_right
          rw [Nat.mul_right_comm]
          exact Nat.mul_le_mul_right _ (Nat.le_add_right _ _)
  have upper : (value * power + rest) * scale / (base * power) ≤ value * scale / base + 1 := by
    calc (value * power + rest) * scale / (base * power)
        ≤ (value * scale + base) * power / (base * power) := by
          apply Nat.div_le_div_right
          have next : rest * scale ≤ power * base := Nat.mul_le_mul (Nat.le_of_lt small) bound
          nlinarith
      _ = value * scale / base + 1 := by
          rw [Nat.mul_div_mul_right _ _ positive, Nat.add_div_right _ some]
  omega

theorem IsUnit.scale_dvd {unit : List Char} (h : IsUnit unit scale) (minute : unit ≠ ['m'])
    (hour : unit ≠ ['h']) : scale ∣ Text.tenPower 18 := by
  cases h
  case minute => exact absurd rfl minute
  case hour => exact absurd rfl hour
  all_goals decide

/-- The places behind the eighteenth do not count where a unit divides ten to the eighteenth. -/
theorem fractionNanos_eq_full {unit : List Char} (isUnit : IsUnit unit scale)
    (digits : Text.Digits fraction) (minute : unit ≠ ['m']) (hour : unit ≠ ['h']) :
    fractionNanos scale fraction = fullFractionNanos scale fraction := by
  by_cases short : fraction.length ≤ 18
  · exact fractionNanos_eq_of_length_le short
  · obtain ⟨rest, power, small, places, eighteen, value⟩ :=
      exists_cut digits (Nat.lt_of_not_le short)
    rw [fractionNanos, fullFractionNanos, eighteen, value, places]
    exact floor_cut_of_dvd small isUnit.scale_pos (isUnit.scale_dvd minute hour)

theorem fullFractionNanos_cases {unit : List Char} (isUnit : IsUnit unit scale)
    (digits : Text.Digits fraction) :
    fullFractionNanos scale fraction = fractionNanos scale fraction ∨
      fullFractionNanos scale fraction = fractionNanos scale fraction + 1 := by
  by_cases short : fraction.length ≤ 18
  · exact .inl (fractionNanos_eq_of_length_le short).symm
  · obtain ⟨rest, power, small, places, eighteen, value⟩ :=
      exists_cut digits (Nat.lt_of_not_le short)
    rw [fractionNanos, fullFractionNanos, eighteen, value, places]
    exact floor_cut_cases small (by decide) (Nat.le_trans isUnit.scale_le (by decide))

theorem floor_amount (c : Component) (scale : Nat) :
    ⌊c.amount * scale⌋₊ =
      Text.digitsValue c.whole * scale + fullFractionNanos scale c.fraction := by
  have positive : 0 < Text.tenPower c.fraction.length := Nat.pow_pos (by decide)
  have nonzero : (Text.tenPower c.fraction.length : ℚ) ≠ 0 := by
    exact_mod_cast Nat.ne_of_gt positive
  have quotient : c.amount * scale =
      ((Text.tenPower c.fraction.length * (Text.digitsValue c.whole * scale) +
        Text.digitsValue c.fraction * scale : ℕ) : ℚ) / Text.tenPower c.fraction.length := by
    rw [Component.amount]
    push_cast
    field_simp
  rw [quotient, Nat.floor_div_eq_div, Nat.mul_add_div positive, fullFractionNanos]

/-- What is read of a component is its value, if no addition leaves the wide words unseen. -/
theorem eq_of_nanos {b : Build} (h : c.Spells s v) (read : c.nanos b = .ok n)
    (seen : b = .unchecked → v < wide) : n = v := by
  by_cases fits : v < wide
  · exact Except.ok.inj (read.symm.trans (nanos_of_spells h fits b))
  · cases b with
    | unchecked => exact absurd (seen rfl) fits
    | checked =>
      rcases nanos_cases c with ⟨fault, -, same⟩ | ⟨-, whole, -⟩
      · cases read.symm.trans (same .checked)
      · cases read.symm.trans (nanos_of_wide h whole (Nat.le_of_not_lt fits))

/-- What is read of a component is the floor of the nanoseconds that it stands for: always so for
the units up to the second and for fractions of up to eighteen places, and otherwise except for one
nanosecond at the most. A checked build reads no component whose value leaves the wide words; of an
unchecked one this has to be asked. -/
theorem nanos_eq_floor_amount {b : Build} (h : c.Spells s v) (read : c.nanos b = .ok n)
    (seen : b = .unchecked → v < wide) (isUnit : IsUnit c.unit scale) :
    (c.unit ≠ ['m'] → c.unit ≠ ['h'] → n = ⌊c.amount * scale⌋₊) ∧
      (n = ⌊c.amount * scale⌋₊ ∨ n + 1 = ⌊c.amount * scale⌋₊) ∧
      (c.fraction.length ≤ 18 → n = ⌊c.amount * scale⌋₊) := by
  have digits := h.digits
  obtain rfl := eq_of_nanos h read seen
  obtain ⟨scale', isUnit', value⟩ := h.value
  obtain rfl := isUnit'.scale_unique isUnit
  rw [value, floor_amount]
  refine ⟨fun minute hour => ?_, ?_, fun short => ?_⟩
  · rw [fractionNanos_eq_full isUnit digits minute hour]
  · rcases fullFractionNanos_cases isUnit digits with same | less
    · exact .inl (by rw [same])
    · exact .inr (by rw [less, Nat.add_assoc])
  · rw [fractionNanos_eq_of_length_le short]

/-- Twenty places of a second that are all nines make one nanosecond less than the second. -/
theorem nanos_twenty_nines :
    Component.nanos ⟨['0'], List.replicate 20 '9', ['s']⟩ .checked = .ok 999999999 ∧
      ⌊Component.amount ⟨['0'], List.replicate 20 '9', ['s']⟩ * (1000000000 : ℕ)⌋₊ = 999999999 := by
  have spells : Component.Spells ⟨['0'], List.replicate 20 '9', ['s']⟩
      (['0'] ++ '.' :: List.replicate 20 '9' ++ ['s']) 999999999 :=
    .intro (.pointed (by decide) (by decide) (by decide)) .second
  have read := nanos_of_spells spells (by decide) .checked
  have floor := (nanos_eq_floor_amount spells read (by decide) .second).1 (by decide) (by decide)
  exact ⟨read, floor.symm⟩

/-- The nineteenth place of an hour can be worth a nanosecond: this is a thousand seconds and a
little more. -/
example :
    fractionNanos 3600000000000 ['2', '7', '7', '7', '7', '7', '7', '7', '7', '7', '7', '7', '7',
      '7', '7', '7', '7', '7', '8'] = 999999999999 := by rfl

end WarmupGate.Span
