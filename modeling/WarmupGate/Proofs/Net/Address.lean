import WarmupGate.Net.Address
import WarmupGate.Proofs.Text.Numeral

/-!
# Spellings of internet addresses

A dotted address has one spelling: the four bytes cannot be told otherwise than by their numerals.
So hosts that are spelled differently are never one dotted address. This does not hold of the colon
form, in which zeros may be written or left out, and letters have two cases.
-/
namespace WarmupGate.Net

theorem splitOn_ne_nil (sep : Char) (s : List Char) : splitOn sep s ≠ [] := by
  cases s with
  | nil => exact List.cons_ne_nil _ _
  | cons c s =>
    unfold splitOn
    split
    · exact List.cons_ne_nil _ _
    · split <;> exact List.cons_ne_nil _ _

theorem intercalate_splitOn (sep : Char) (s : List Char) :
    [sep].intercalate (splitOn sep s) = s := by
  induction s with
  | nil => rfl
  | cons c s ih =>
    unfold splitOn
    by_cases here : c = sep
    · rw [if_pos here, List.intercalate_cons_of_ne_nil (splitOn_ne_nil sep s), ih, here]
      rfl
    · rw [if_neg here]
      cases parts : splitOn sep s with
      | nil => exact absurd parts (splitOn_ne_nil sep s)
      | cons part parts' =>
        rw [parts] at ih
        cases parts' with
        | nil => simpa using ih
        | cons => simpa [List.intercalate_cons_cons] using ih

namespace Address

theorem isNumeral_of_readByte? {s : List Char} {n : Nat} (h : readByte? s = some n) :
    Text.IsNumeral s ∧ Text.digitsValue s = n ∧ n < 256 := by
  unfold readByte? at h
  by_cases shape : (s.isEmpty || 3 < s.length || !s.all Text.isDigit) = true
  · simp [shape] at h
  · rw [if_neg shape] at h
    by_cases padded : (1 < s.length && s.head? == some '0') = true
    · simp [padded] at h
    · rw [if_neg padded] at h
      by_cases small : Text.digitsValue s < 256
      · obtain rfl := Option.some.inj ((if_pos small).symm.trans h)
        obtain ⟨⟨some, -⟩, digits⟩ : (s ≠ [] ∧ s.length ≤ 3) ∧ Text.Digits s := by
          simpa [Text.Digits] using shape
        have bare : 1 < s.length → s.head? ≠ .some '0' := by
          simpa using padded
        refine ⟨⟨some, digits, fun zero => ?_⟩, rfl, small⟩
        have single : s.length ≤ 1 := Nat.not_lt.1 fun longer => bare longer zero
        obtain ⟨c, t, rfl⟩ := List.exists_cons_of_ne_nil some
        obtain rfl : t = [] := List.length_eq_zero_iff.1 (by simpa using single)
        exact congrArg ([·]) (Option.some.inj zero)
      · simp [small] at h

theorem numeral_of_readByte? {s : List Char} {n : Nat} (h : readByte? s = some n) :
    Text.numeral n = s := by
  obtain ⟨numeral, value, -⟩ := isNumeral_of_readByte? h
  rw [← value, Text.numeral_digitsValue numeral]

theorem v4Text_of_readV4? {s : List Char} {n : Nat} (h : readV4? s = some n) : v4Text n = s := by
  unfold readV4? at h
  split at h
  · rename_i a b c d bytes
    obtain ⟨p, ps, split, first, bytes⟩ := List.map_eq_cons_iff.1 bytes
    obtain ⟨q, qs, rfl, second, bytes⟩ := List.map_eq_cons_iff.1 bytes
    obtain ⟨r, rs, rfl, third, bytes⟩ := List.map_eq_cons_iff.1 bytes
    obtain ⟨t, ts, rfl, fourth, bytes⟩ := List.map_eq_cons_iff.1 bytes
    obtain rfl := List.map_eq_nil_iff.1 bytes
    have a_lt := (isNumeral_of_readByte? first).2.2
    have b_lt := (isNumeral_of_readByte? second).2.2
    have c_lt := (isNumeral_of_readByte? third).2.2
    have d_lt := (isNumeral_of_readByte? fourth).2.2
    obtain rfl := Option.some.inj h
    have text : v4Text (((a * 256 + b) * 256 + c) * 256 + d) = ['.'].intercalate [p, q, r, t] := by
      rw [v4Text, ← numeral_of_readByte? first, ← numeral_of_readByte? second,
        ← numeral_of_readByte? third, ← numeral_of_readByte? fourth]
      congr <;> omega
    rw [text, ← split, intercalate_splitOn]
  · cases h

theorem v4Text_of_read? {s : List Char} {n : Nat} (h : read? s = some (.v4 n)) : v4Text n = s := by
  unfold read? at h
  split at h
  · rename_i m dotted
    cases h
    exact v4Text_of_readV4? dotted
  · simp at h

theorem eq_or_v6_of_read? {s t : List Char} {a : Address} (h : read? s = some a)
    (k : read? t = some a) : s = t ∨ ∃ groups, a = .v6 groups := by
  cases a with
  | v4 n => exact .inl ((v4Text_of_read? h).symm.trans (v4Text_of_read? k))
  | v6 groups => exact .inr ⟨groups, rfl⟩

end Address
end WarmupGate.Net
