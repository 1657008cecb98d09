import WarmupGate.Proofs.Span.Grammar

/-!
# Spans that leave the wide words

Every step of the arithmetic on a component stays within the wide words or is refused, except for
the one that adds the fraction to the whole units. That sum leaves them only where the whole units
come as close to their end as they can. A checked build stops there; so it never takes a text whose
components add up to more than 64 bits hold, but it does not tell a fault of every such text. An
unchecked build may take one.
-/
namespace WarmupGate.Span

variable {s t rest sign body : List Char} {c : Component} {cs : List Component} {minus : Bool}
  {n m scale total : Nat}

theorem digits_splitComponent (s : List Char) :
    Text.Digits (splitComponent s).1.whole ∧ Text.Digits (splitComponent s).1.fraction := by
  refine ⟨digits_takeWhile s, ?_⟩
  change Text.Digits (splitFraction (s.dropWhile Text.isDigit)).1
  unfold splitFraction
  split
  · exact digits_takeWhile _
  · exact Text.digits_nil

theorem tenPower_take_le (fraction : List Char) :
    Text.tenPower (fraction.take 18).length ≤ Text.tenPower 18 :=
  Nat.pow_le_pow_right (by decide) (List.length_take_le 18 fraction)

theorem fraction_product_lt {fraction unit : List Char} (digits : Text.Digits fraction)
    (isUnit : IsUnit unit scale) :
    Text.digitsValue (fraction.take 18) * scale < wide := by
  have value : Text.digitsValue (fraction.take 18) < Text.tenPower (fraction.take 18).length :=
    Text.digitsValue_lt fun x hx => digits x (List.mem_of_mem_take hx)
  calc Text.digitsValue (fraction.take 18) * scale
      ≤ Text.tenPower 18 * 3600000000000 :=
        Nat.mul_le_mul (Nat.le_trans (Nat.le_of_lt value) (tenPower_take_le fraction))
          isUnit.scale_le
    _ < wide := by decide

/-- The sum of whole units and fraction leaves the wide words only when the whole units are the most
that fit, and the fraction fills what is left behind them. -/
theorem wide_le_add_iff {whole fraction : Nat} (fits : whole * scale < wide)
    (part : fraction < scale) :
    wide ≤ whole * scale + fraction ↔ whole = wide / scale ∧ wide % scale ≤ fraction := by
  have split := Nat.div_add_mod wide scale
  have below : wide % scale < scale := Nat.mod_lt _ (Nat.zero_lt_of_lt part)
  constructor
  · intro beyond
    -- the quotient is the only number of whole units within one unit of the end
    have upper : whole < wide / scale + 1 := by
      apply Nat.lt_of_mul_lt_mul_left (a := scale)
      rw [Nat.mul_add, Nat.mul_comm scale whole]
      omega
    have lower : wide / scale < whole + 1 := by
      apply Nat.lt_of_mul_lt_mul_left (a := scale)
      rw [Nat.mul_add, Nat.mul_comm scale whole]
      omega
    have last : whole = wide / scale := by omega
    refine ⟨last, ?_⟩
    rw [last, Nat.mul_comm] at beyond
    omega
  · rintro ⟨rfl, small⟩
    rw [Nat.mul_comm]
    omega

/-- The steps of a component's arithmetic that nothing checks: two of them stay within the wide
words, and the third one leaves them exactly if the whole units are the most that fit and the
fraction fills the rest. -/
structure Component.Bounded (c : Component) (scale : Nat) : Prop where
  power : Text.tenPower (c.fraction.take 18).length < wide
  product : Text.digitsValue (c.fraction.take 18) * scale < wide
  sum : Text.digitsValue c.whole * scale < wide →
    (wide ≤ Text.digitsValue c.whole * scale + fractionNanos scale c.fraction ↔
      Text.digitsValue c.whole = wide / scale ∧ wide % scale ≤ fractionNanos scale c.fraction)

theorem bounded_of_digits (digits : Text.Digits c.fraction) (isUnit : IsUnit c.unit scale) :
    c.Bounded scale where
  power := Nat.lt_of_le_of_lt (tenPower_take_le _) (by decide)
  product := fraction_product_lt digits isUnit
  sum fits := wide_le_add_iff fits (fractionNanos_lt digits isUnit.scale_pos)

theorem Component.Spells.unique (h : c.Spells s n) (h' : c.Spells t m) : n = m := by
  obtain ⟨scale, isUnit, rfl⟩ := h.value
  obtain ⟨scale', isUnit', rfl⟩ := h'.value
  rw [isUnit.scale_unique isUnit']

theorem Spells.unique (h : Spells cs s n) {cs' : List Component} (h' : Spells cs' s m) :
    n = m := by
  induction h generalizing cs' m with
  | @last c s n h =>
    have whole := splitComponent_of_spells h atNumber_nil
    rw [List.append_nil] at whole
    cases h' with
    | last h' =>
      have other := splitComponent_of_spells h' atNumber_nil
      rw [List.append_nil, whole] at other
      cases other
      exact h.unique h'
    | cons h' others =>
      cases whole.symm.trans (splitComponent_of_spells h' others.atNumber)
      exact nomatch others.exists_cons
  | @cons c cs s t n m h others ih =>
    have first := splitComponent_of_spells h others.atNumber
    generalize whole : s ++ t = joined at h' first
    cases h' with
    | last h' =>
      have other := splitComponent_of_spells h' atNumber_nil
      rw [List.append_nil, first] at other
      cases other
      exact nomatch others.exists_cons
    | cons h' others' =>
      cases first.symm.trans (splitComponent_of_spells h' others'.atNumber)
      rw [h.unique h', ih others']

/-- A text that adds up to a wide word's worth at the most has no component that overflows. -/
theorem not_overflows_of_spells {sign : List Char} {minus : Bool} (isSign : IsSign sign minus)
    (h : Spells cs s n) (fits : n < wide) : ¬ Overflows (sign ++ s) := by
  obtain ⟨x, y, tail, some, -⟩ := h.exists_cons
  have sum : sumComponents .checked 0 s = .ok (0 + n) :=
    sumComponents_of_spells h (by omega) .checked
  have magnitude := readMagnitude_of_ok (by simp [some]) (by simp [some]) sum
  intro overflows
  have stops := readIn_of_overflows overflows
  rw [readIn, splitSign_of_isSign isSign h.atNumber, magnitude] at stops
  by_cases large : Word.size 64 ≤ 0 + n
  · rw [if_pos large] at stops
    cases stops
  · rw [if_neg large] at stops
    cases stops

/-- A checked build accepts no text whose components add up to more than 64 bits hold. -/
theorem refused_of_overlarge (isSign : IsSign sign minus) (h : Spells cs body total)
    (large : Word.size 64 ≤ total) : ∃ fault, readIn .checked (sign ++ body) = .error fault := by
  cases result : readIn .checked (sign ++ body) with
  | error fault => exact ⟨fault, rfl⟩
  | ok d =>
    have means := readIn_checked_eq_ok_iff.1 result
    have split := splitSign_of_isSign isSign h.atNumber
    generalize sign ++ body = s at means split
    cases means with
    | zero isSign' =>
      obtain ⟨x, y, tail, rfl, -⟩ := h.exists_cons
      cases split.symm.trans (splitSign_of_isSign isSign' (by simp [AtNumber, startsNumber,
        Text.isDigit]))
    | sum isSign' h' bound =>
      cases split.symm.trans (splitSign_of_isSign isSign' h'.atNumber)
      rw [h.unique h'] at large
      have size := Word.size_pos 64
      omega

/-- Before any place of a text the products that the reader makes stay within the wide words, and
the sum of whole units and fraction leaves them only where the whole units are the most that fit. A
checked build stops at exactly the texts that come to such a sum, and at the others it reads as an
unchecked one does. A text of components whose sum does not fit into 64 bits is never accepted by a
checked build, and unless it overflows every build tells a fault of it. -/
theorem overlarge_refused_unless_overflowing (s : List Char) :
    (∀ rest scale, IsUnit (splitComponent rest).1.unit scale →
      (splitComponent rest).1.Bounded scale) ∧
      (readIn .checked s = .error .overflow ↔ Overflows s) ∧
      (¬ Overflows s → ∀ b, readIn b s = readIn .checked s) ∧
      ∀ sign minus body cs total, IsSign sign minus → s = sign ++ body → Spells cs body total →
        Word.size 64 ≤ total →
        (∃ fault, readIn .checked s = .error fault) ∧
          (¬ Overflows s → ∃ fault, fault ≠ .overflow ∧ ∀ b, readIn b s = .error fault) := by
  refine ⟨fun rest scale isUnit => bounded_of_digits (digits_splitComponent rest).2 isUnit,
    readIn_checked_eq_overflow_iff, readIn_eq_of_not_overflows, ?_⟩
  rintro sign minus body cs total isSign rfl h large
  have refused := refused_of_overlarge isSign h large
  refine ⟨refused, fun contained => ?_⟩
  obtain ⟨fault, refused⟩ := refused
  refine ⟨fault, ?_, fun b => (readIn_eq_of_not_overflows contained b).trans refused⟩
  rintro rfl
  exact contained (readIn_checked_eq_overflow_iff.1 refused)

/-- The least whole number of nanoseconds that 64 bits do not hold is refused. -/
theorem read_least_overlarge :
    ∃ fault, fault ≠ .overflow ∧ ∀ b, readIn b ['1', '8', '4', '4', '6', '7', '4', '4', '0', '7',
      '3', '7', '0', '9', '5', '5', '1', '6', '1', '6', 'n', 's'] = .error fault := by
  have spells : Spells [⟨['1', '8', '4', '4', '6', '7', '4', '4', '0', '7', '3', '7', '0', '9', '5',
      '5', '1', '6', '1', '6'], [], ['n', 's']⟩] (['1', '8', '4', '4', '6', '7', '4', '4', '0', '7',
      '3', '7', '0', '9', '5', '5', '1', '6', '1', '6'] ++ ['n', 's']) (Word.size 64) :=
    .last (.intro (.whole (by decide) (by decide)) .nano)
  have contained := not_overflows_of_spells .none spells (by decide)
  exact ((overlarge_refused_unless_overflowing _).2.2.2 [] false _ _ _ .none rfl spells
    (Nat.le_refl _)).2 contained

theorem nanos_unchecked (h : c.Spells s n) (fits : c.WholeFits) :
    c.nanos .unchecked = .ok (n % wide) := by
  obtain ⟨whole, part, rfl, nanos⟩ := nanos_of_wholeFits h fits
  rw [nanos, Build.add_unchecked]

/-- A text whose components add up to more than a wide word stops a checked build, and an unchecked
one reads half a microsecond. -/
theorem read_brimful :
    ∃ cs total, Spells cs brimful.written total ∧ Word.size 64 ≤ total ∧
      readIn .checked brimful.written = .error .overflow ∧
      readIn .unchecked brimful.written = .ok (.positive ⟨543⟩) := by
  have front : splitComponent brimful.written = (brimful, []) := by
    have whole := splitComponent_of_spells spells_brimful atNumber_nil
    rwa [List.append_nil] at whole
  have some : brimful.written ≠ [] := List.cons_ne_nil _ _
  have nanos : (splitComponent brimful.written).1.nanos .unchecked = .ok 543 := by
    rw [front]
    exact nanos_unchecked spells_brimful wholeFits_brimful
  have sum : sumComponents .unchecked 0 brimful.written = .ok 543 := by
    rw [sumComponents_of_ok some nanos, if_neg (by decide), front, sumComponents_nil]
  have magnitude := readMagnitude_of_ok (by decide) some sum
  have unsigned : splitSign brimful.written = (false, brimful.written) :=
    splitSign_of_isSign .none spells_brimful.atNumber
  refine ⟨_, _, .last spells_brimful, by decide, readIn_of_overflows overflows_brimful, ?_⟩
  rw [readIn, unsigned, magnitude]
  rfl

end WarmupGate.Span
