import WarmupGate.Text.Integer

/-!
# Integers that a text denotes

The value of a run of digits is less than ten to its length, and further digits never make it less.
A reader of bounded integers accepts a text exactly if it is an optional sign and at least one digit
and if what it denotes lies within the bounds; leading zeros do not count. Which rule a refused text
breaks is not said here.
-/
namespace WarmupGate.Text

theorem toNat_sub_lt_of_isDigit {c : Char} (h : isDigit c = true) :
    c.toNat - '0'.toNat < 10 := by
  have le : c ≤ '9' := by
    unfold isDigit at h
    simp_all
  have bound : c.toNat ≤ '9'.toNat := le
  have zero : '0'.toNat = 48 := rfl
  have nine : '9'.toNat = 57 := rfl
  omega

theorem le_ofDigitChars (s : List Char) (n : Nat) : n ≤ Nat.ofDigitChars 10 s n := by
  induction s generalizing n with
  | nil => exact Nat.le_refl n
  | cons c s ih =>
    rw [Nat.ofDigitChars_cons]
    have := ih (10 * n + (c.toNat - '0'.toNat))
    omega

theorem ofDigitChars_lt {s : List Char} (digits : Digits s) (n : Nat) :
    Nat.ofDigitChars 10 s n < (n + 1) * tenPower s.length := by
  induction s generalizing n with
  | nil => simp [Nat.ofDigitChars, tenPower]
  | cons c s ih =>
    have small := toNat_sub_lt_of_isDigit (digits_cons.1 digits).1
    have rest := ih (digits_cons.1 digits).2 (10 * n + (c.toNat - '0'.toNat))
    rw [Nat.ofDigitChars_cons]
    calc Nat.ofDigitChars 10 s (10 * n + (c.toNat - '0'.toNat))
        < (10 * n + (c.toNat - '0'.toNat) + 1) * tenPower s.length := rest
      _ ≤ (10 * (n + 1)) * tenPower s.length := Nat.mul_le_mul_right _ (by omega)
      _ = (n + 1) * tenPower (c :: s).length := by
        have power : tenPower (c :: s).length = tenPower s.length * 10 := rfl
        rw [power, Nat.mul_comm 10, Nat.mul_assoc, Nat.mul_comm 10]

theorem digitsValue_lt {s : List Char} (digits : Digits s) :
    digitsValue s < tenPower s.length := by
  simpa [digitsValue] using ofDigitChars_lt digits 0

theorem digitsValue_append (s t : List Char) :
    digitsValue (s ++ t) = digitsValue s * tenPower t.length + digitsValue t := by
  rw [digitsValue, Nat.ofDigitChars_append, Nat.ofDigitChars_eq_ofDigitChars_zero, Nat.mul_comm]
  rfl

theorem digits_numeral (n : Nat) : Digits (numeral n) := by
  intro c member
  have digit := Nat.isDigit_of_mem_toDigits (by decide) (by decide) member
  simp only [Char.isDigit, Bool.and_eq_true, decide_eq_true_eq] at digit
  exact Bool.and_eq_true_iff.2 ⟨decide_eq_true digit.1, decide_eq_true digit.2⟩

theorem Digits.not_mem {s : List Char} {c : Char} (h : Digits s) (stray : isDigit c = false) :
    c ∉ s := fun member => by simp [h c member] at stray

theorem digitsValue_replicate_zero (n : Nat) : digitsValue (List.replicate n '0') = 0 := by
  rw [digitsValue, Nat.ofDigitChars_replicate_zero, Nat.mul_zero]

theorem digitsValue_fillZeros (width n : Nat) : digitsValue (fillZeros width (numeral n)) = n := by
  rw [fillZeros, digitsValue_append, digitsValue_replicate_zero, Nat.zero_mul, Nat.zero_add,
    digitsValue_numeral]

theorem tenPower_add (m n : Nat) : tenPower (m + n) = tenPower m * tenPower n :=
  Nat.pow_add 10 m n

theorem length_numeral_le {n width : Nat} (some : 0 < width) (bound : n < tenPower width) :
    (numeral n).length ≤ width :=
  (Nat.length_toDigits_le_iff (by decide) some).2 bound

/-- A text is an optional sign and at least one digit, and stands for an integer. -/
inductive Denotes : List Char → Int → Prop
  | plain {s : List Char} : s ≠ [] → Digits s → Denotes s (digitsValue s)
  | plus {s : List Char} : s ≠ [] → Digits s → Denotes ('+' :: s) (digitsValue s)
  | minus {s : List Char} : s ≠ [] → Digits s → Denotes ('-' :: s) (-digitsValue s)

/-- Digits are added exactly if there is nothing else and the sum stays within the bound. -/
theorem addDigits_eq_ok_iff {upper n m : Nat} {s : List Char} (h : n ≤ upper) :
    addDigits upper n s = .ok m ↔ Digits s ∧ Nat.ofDigitChars 10 s n = m ∧ m ≤ upper := by
  induction s generalizing n with
  | nil =>
    simp only [addDigits, Except.ok.injEq, Nat.ofDigitChars, List.foldl_nil]
    constructor
    · rintro rfl
      exact ⟨digits_nil, rfl, h⟩
    · exact fun k => k.2.1
  | cons c s ih =>
    have next : n * 10 + (c.toNat - '0'.toNat) = 10 * n + (c.toNat - '0'.toNat) := by omega
    rw [addDigits, Nat.ofDigitChars_cons, digits_cons, next]
    by_cases digit : isDigit c = true
    · simp only [digit, if_true, true_and]
      by_cases large : upper < 10 * n + (c.toNat - '0'.toNat)
      · -- what is too large after one digit stays so after all
        have grows := le_ofDigitChars s (10 * n + (c.toNat - '0'.toNat))
        rw [if_pos large]
        constructor
        · exact fun k => nomatch k
        · rintro ⟨-, rfl, bounded⟩
          omega
      · rw [if_neg large]
        exact ih (Nat.le_of_not_lt large)
    · simp [digit]

theorem addDigits_zero_iff {upper m : Nat} {s : List Char} :
    addDigits upper 0 s = .ok m ↔ Digits s ∧ digitsValue s = m ∧ m ≤ upper :=
  addDigits_eq_ok_iff (Nat.zero_le upper)

theorem denotes_plus_iff {s : List Char} {n : Int} :
    Denotes ('+' :: s) n ↔ s ≠ [] ∧ Digits s ∧ n = digitsValue s := by
  constructor
  · intro h
    cases h with
    | plain some digits => exact absurd (digits '+' List.mem_cons_self) (by decide)
    | plus some digits => exact ⟨some, digits, rfl⟩
  · rintro ⟨some, digits, rfl⟩
    exact .plus some digits

theorem denotes_minus_iff {s : List Char} {n : Int} :
    Denotes ('-' :: s) n ↔ s ≠ [] ∧ Digits s ∧ n = -digitsValue s := by
  constructor
  · intro h
    cases h with
    | plain some digits => exact absurd (digits '-' List.mem_cons_self) (by decide)
    | minus some digits => exact ⟨some, digits, rfl⟩
  · rintro ⟨some, digits, rfl⟩
    exact .minus some digits

theorem denotes_iff_of_unsigned {s : List Char} {n : Int} (plus : ∀ t, s ≠ '+' :: t)
    (minus : ∀ t, s ≠ '-' :: t) :
    Denotes s n ↔ s ≠ [] ∧ Digits s ∧ n = digitsValue s := by
  constructor
  · intro h
    cases h with
    | plain some digits => exact ⟨some, digits, rfl⟩
    | plus => exact absurd rfl (plus _)
    | minus => exact absurd rfl (minus _)
  · rintro ⟨some, digits, rfl⟩
    exact .plain some digits

theorem map_addDigits_iff {upper : Nat} {s : List Char} {n : Int} :
    (addDigits upper 0 s).map Int.ofNat = .ok n ↔
      Digits s ∧ n = digitsValue s ∧ n ≤ upper := by
  cases h : addDigits upper 0 s with
  | error fault =>
    simp only [Except.map, reduceCtorEq, false_iff]
    rintro ⟨digits, rfl, bounded⟩
    cases h.symm.trans (addDigits_zero_iff.2 ⟨digits, rfl, Int.ofNat_le.1 bounded⟩)
  | ok m =>
    obtain ⟨digits, value, bounded⟩ := addDigits_zero_iff.1 h
    simp only [Except.map, Except.ok.injEq, value]
    constructor
    · rintro rfl
      exact ⟨digits, rfl, Int.ofNat_le.2 bounded⟩
    · exact fun k => k.2.1.symm

theorem readInteger_eq_ok_iff {lower upper : Nat} (signed : 0 < lower) {s : List Char} {n : Int} :
    readInteger lower upper s = .ok n ↔ Denotes s n ∧ -lower ≤ n ∧ n ≤ upper := by
  unfold readInteger
  split
  · simp [denotes_iff_of_unsigned]
  · simp [denotes_plus_iff]
  · simp [denotes_minus_iff]
  · rename_i digits some
    rw [denotes_plus_iff, map_addDigits_iff]
    constructor
    · rintro ⟨all, rfl, bounded⟩
      exact ⟨⟨some, all, rfl⟩, by omega, bounded⟩
    · rintro ⟨⟨-, all, rfl⟩, -, bounded⟩
      exact ⟨all, rfl, bounded⟩
  · rename_i digits some
    rw [if_neg (Nat.ne_of_gt signed), denotes_minus_iff]
    cases h : addDigits lower 0 digits with
    | error fault =>
      have refused : ¬ ((digits ≠ [] ∧ Digits digits ∧ n = -digitsValue digits) ∧ -lower ≤ n ∧
          n ≤ upper) := by
        rintro ⟨⟨-, all, rfl⟩, bounded, -⟩
        cases h.symm.trans (addDigits_zero_iff.2 ⟨all, rfl, by omega⟩)
      cases fault <;> simpa using refused
    | ok m =>
      obtain ⟨all, value, bounded⟩ := addDigits_zero_iff.1 h
      simp only [Except.ok.injEq, Int.ofNat_eq_natCast, ← value]
      constructor
      · rintro rfl
        exact ⟨⟨some, all, rfl⟩, by omega, by omega⟩
      · exact fun k => k.1.2.2.symm
  · rename_i empty loneplus loneminus plus minus
    rw [map_addDigits_iff, denotes_iff_of_unsigned plus minus]
    constructor
    · rintro ⟨all, rfl, bounded⟩
      exact ⟨⟨empty, all, rfl⟩, by omega, bounded⟩
    · rintro ⟨⟨-, all, rfl⟩, -, bounded⟩
      exact ⟨all, rfl, bounded⟩

theorem readInt64_eq_ok_iff {s : List Char} {n : Int} :
    readInt64 s = .ok n ↔
      Denotes s n ∧ -(Word.size 63 : Int) ≤ n ∧ n ≤ (Word.size 63 - 1 : Nat) :=
  readInteger_eq_ok_iff (Word.size_pos 63)

theorem Denotes.unique {s : List Char} {n m : Int} (h : Denotes s n) (k : Denotes s m) : n = m := by
  -- a reader with bounds wide enough for both gives one answer
  have wide : ∀ {i : Int}, Denotes s i → i.natAbs ≤ n.natAbs + m.natAbs →
      readInteger (n.natAbs + m.natAbs + 1) (n.natAbs + m.natAbs) s = .ok i := by
    intro i denotes bounded
    exact (readInteger_eq_ok_iff (Nat.succ_pos _)).2 ⟨denotes, by omega, by omega⟩
  have same := (wide h (Nat.le_add_right _ _)).symm.trans (wide k (Nat.le_add_left _ _))
  cases same
  rfl

end WarmupGate.Text
