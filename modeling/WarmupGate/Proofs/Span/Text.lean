import WarmupGate.Proofs.Span.Grammar

/-!
# The text of a span tells the span

The text that a span is written as is one component of the grammar of spans, and it stands for the
span exactly: the zeros that are left out behind the point are worth nothing. Read without the
limits of words it gives every span back, so no two spans have one text.
-/
namespace WarmupGate.Span

variable {c : Component} {s : List Char} {n : Nat}

theorem exists_fractionDigits (places part : Nat) :
    ∃ zeros, Text.fillZeros places (Text.numeral part) =
      fractionDigits places part ++ List.replicate zeros '0' := by
  let backward := (Text.fillZeros places (Text.numeral part)).reverse
  have zeros : backward.takeWhile (· == '0') =
      List.replicate (backward.takeWhile (· == '0')).length '0' :=
    List.eq_replicate_of_mem fun c member =>
      eq_of_beq (List.all_eq_true.1 List.all_takeWhile c member)
  refine ⟨(backward.takeWhile (· == '0')).length, ?_⟩
  calc Text.fillZeros places (Text.numeral part)
      = (backward.takeWhile (· == '0') ++ backward.dropWhile (· == '0')).reverse := by
        rw [List.takeWhile_append_dropWhile, List.reverse_reverse]
    _ = fractionDigits places part ++ (backward.takeWhile (· == '0')).reverse :=
        List.reverse_append
    _ = fractionDigits places part ++
          List.replicate (backward.takeWhile (· == '0')).length '0' := by
        rw [zeros, List.reverse_replicate, List.length_replicate]

theorem digits_fractionDigits (places part : Nat) : Text.Digits (fractionDigits places part) := by
  intro c member
  have filled : Text.Digits (Text.fillZeros places (Text.numeral part)) := by
    intro c member
    rcases List.mem_append.1 member with zero | digit
    · rw [List.eq_of_mem_replicate zero]
      rfl
    · exact Text.digits_numeral part c digit
  obtain ⟨zeros, parts⟩ := exists_fractionDigits places part
  exact filled c (parts ▸ List.mem_append_left _ member)

theorem fractionNanos_fractionDigits {places part : Nat} (some : 0 < places) (few : places ≤ 18)
    (small : part < Text.tenPower places) :
    fractionNanos (Text.tenPower places) (fractionDigits places part) = part := by
  obtain ⟨zeros, parts⟩ := exists_fractionDigits places part
  have length : (fractionDigits places part).length + zeros = places := by
    have filled := Text.length_fillZeros (Text.length_numeral_le some small)
    rw [parts, List.length_append, List.length_replicate] at filled
    exact filled
  have value : Text.digitsValue (fractionDigits places part) * Text.tenPower zeros = part := by
    have filled := Text.digitsValue_fillZeros places part
    rw [parts, Text.digitsValue_append, Text.digitsValue_replicate_zero,
      List.length_replicate] at filled
    exact filled
  have power : Text.tenPower places =
      Text.tenPower zeros * Text.tenPower (fractionDigits places part).length := by
    rw [← Text.tenPower_add, Nat.add_comm, length]
  rw [fractionNanos, List.take_of_length_le (by omega), power, ← Nat.mul_assoc, value]
  exact Nat.mul_div_cancel _ (Nat.pow_pos (by decide))

theorem isUnit_scale (d : Span) : IsUnit d.scale.name d.scale.nanos := by
  unfold scale
  split
  · exact .second
  · split
    · exact .milli
    · split
      · exact .microSign
      · exact .nano

theorem nanos_scale (d : Span) : d.scale.nanos = Text.tenPower d.scale.places := by
  unfold scale
  repeat' split
  all_goals rfl

theorem places_scale_le (d : Span) : d.scale.places ≤ 18 := by
  unfold scale
  repeat' split
  all_goals decide

/-- The one component that a span is written as. -/
def component (d : Span) : Component :=
  { whole := Text.numeral (d.nanos / d.scale.nanos)
    fraction :=
      if d.nanos % d.scale.nanos = 0 then []
      else fractionDigits d.scale.places (d.nanos % d.scale.nanos)
    unit := d.scale.name }

theorem spells_chars (d : Span) : d.component.Spells d.chars d.nanos := by
  have whole := Text.digits_numeral (d.nanos / d.scale.nanos)
  have some : Text.numeral (d.nanos / d.scale.nanos) ≠ [] := Nat.toDigits_ne_nil
  have parts := Nat.div_add_mod' d.nanos d.scale.nanos
  by_cases even : d.nanos % d.scale.nanos = 0
  · have spelled := Component.Spells.intro (.whole whole some) d.isUnit_scale
    have none : Text.digitsValue ([].take 18) * d.scale.nanos /
        Text.tenPower ([].take 18 : List Char).length = 0 := by simp [Text.digitsValue]
    rw [Text.digitsValue_numeral, none, ← even, parts] at spelled
    simpa [component, chars, even] using spelled
  · have inside : d.nanos % d.scale.nanos < Text.tenPower d.scale.places :=
      d.nanos_scale ▸ Nat.mod_lt _ d.isUnit_scale.scale_pos
    have pointed : 0 < d.scale.places := by
      refine Nat.pos_of_ne_zero fun none => even ?_
      rw [none] at inside
      exact Nat.lt_one_iff.1 inside
    have fraction := fractionNanos_fractionDigits pointed d.places_scale_le inside
    rw [← d.nanos_scale, fractionNanos] at fraction
    have spelled := Component.Spells.intro
      (.pointed whole some (digits_fractionDigits d.scale.places (d.nanos % d.scale.nanos)))
      d.isUnit_scale
    rw [Text.digitsValue_numeral, fraction, parts] at spelled
    simpa [component, chars, even] using spelled

/-- The span that the first component of a text stands for, without a limit. -/
def ofChars? (s : List Char) : Option Span :=
  let c := (splitComponent s).1
  (unitNanos c.unit).map fun scale =>
    ⟨Text.digitsValue c.whole * scale + fractionNanos scale c.fraction⟩

theorem ofChars?_of_spells (h : c.Spells s n) : ofChars? s = some ⟨n⟩ := by
  obtain ⟨scale, isUnit, value⟩ := h.value
  have front : splitComponent (s ++ []) = (c, []) := splitComponent_of_spells h (by simp [AtNumber])
  rw [List.append_nil] at front
  rw [ofChars?, front, unitNanos_eq_some_iff.2 isUnit, value, Option.map_some]

@[simp] theorem ofChars?_chars (d : Span) : ofChars? d.chars = some d :=
  ofChars?_of_spells d.spells_chars

/-- The text of a span has digits, a point and the letters of a unit, and nothing else. -/
theorem not_mem_chars (d : Span) {x : Char} (digit : Text.isDigit x = false) (point : x ≠ '.')
    (unit : x ∉ ['n', 'µ', 'm', 's']) : x ∉ d.chars := by
  have name : x ∉ d.scale.name := by
    unfold scale
    repeat' split
    all_goals simp_all
  have whole := (Text.digits_numeral (d.nanos / d.scale.nanos)).not_mem digit
  have fraction :=
    (digits_fractionDigits d.scale.places (d.nanos % d.scale.nanos)).not_mem digit
  unfold chars
  by_cases even : d.nanos % d.scale.nanos = 0 <;> simp [even, whole, fraction, name, point]

end WarmupGate.Span
