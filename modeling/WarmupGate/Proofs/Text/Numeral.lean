import WarmupGate.Proofs.Text.Integer

/-!
# Which texts are numerals

A text is the numeral of a number exactly if it has digits only, at least one of them, and no zero
in front of others. So a number has one numeral, and two numerals of one number are the same text.
-/
namespace WarmupGate.Text

theorem toDigits_digit {c : Char} (digit : isDigit c = true) :
    Nat.toDigits 10 (c.toNat - '0'.toNat) = [c] := by
  have range : '0' ≤ c ∧ c ≤ '9' := by
    unfold isDigit at digit
    simp_all
  have low : '0'.toNat ≤ c.toNat := range.1
  have small := toNat_sub_lt_of_isDigit digit
  have chars : ∀ k < 10, Nat.digitChar k = Char.ofNat (k + '0'.toNat) := by decide
  rw [Nat.toDigits_of_lt_base small, chars _ small, Nat.sub_add_cancel low, Char.ofNat_toNat]

theorem toDigits_append_digits {s : List Char} (digits : Digits s) {n : Nat} (positive : 0 < n) :
    Nat.toDigits 10 n ++ s = Nat.toDigits 10 (Nat.ofDigitChars 10 s n) := by
  induction s generalizing n with
  | nil => simp
  | cons c s ih =>
    obtain ⟨digit, rest⟩ := digits_cons.1 digits
    have small := toNat_sub_lt_of_isDigit digit
    rw [Nat.ofDigitChars_cons, ← ih rest (by omega),
      ← Nat.toDigits_append_toDigits (by decide) positive small, toDigits_digit digit,
      List.append_assoc, List.singleton_append]

theorem numeral_digitsValue {s : List Char} (h : IsNumeral s) : numeral (digitsValue s) = s := by
  obtain ⟨some, digits, bare⟩ := h
  cases s with
  | nil => exact absurd rfl some
  | cons c s =>
    obtain ⟨digit, rest⟩ := digits_cons.1 digits
    by_cases zero : c = '0'
    · rw [bare (by rw [zero, List.head?_cons])]
      decide
    · have positive : 0 < c.toNat - '0'.toNat := by
        apply Nat.pos_of_ne_zero
        intro none
        have same := toDigits_digit digit
        rw [none] at same
        exact zero (List.cons.inj same).1.symm
      rw [numeral, digitsValue, Nat.ofDigitChars_cons, Nat.mul_zero, Nat.zero_add,
        ← toDigits_append_digits rest positive, toDigits_digit digit, List.singleton_append]

theorem head?_toDigits_ne {n : Nat} (positive : 0 < n) :
    (Nat.toDigits 10 n).head? ≠ some '0' := by
  induction n using Nat.strongRecOn with
  | ind n ih =>
    by_cases small : n < 10
    · have chars : ∀ k < 10, Nat.digitChar k = '0' → k = 0 := by decide
      rw [Nat.toDigits_of_lt_base small, List.head?_cons]
      exact fun zero => Nat.ne_of_gt positive (chars n small (Option.some.inj zero))
    · -- the digits in front are those of a tenth, which is positive too
      have front := ih (n / 10) (by omega) (by omega)
      rw [Nat.toDigits_eq_if (by decide), if_neg small, List.head?_append]
      cases first : (Nat.toDigits 10 (n / 10)).head? with
      | none => exact absurd (List.head?_eq_none_iff.1 first) Nat.toDigits_ne_nil
      | some c => rwa [Option.some_or, ← first]

theorem isNumeral_numeral (n : Nat) : IsNumeral (numeral n) := by
  refine ⟨Nat.toDigits_ne_nil, digits_numeral n, fun zero => ?_⟩
  cases n with
  | zero => decide
  | succ n => exact absurd zero (head?_toDigits_ne n.succ_pos)

end WarmupGate.Text
