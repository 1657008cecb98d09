import WarmupGate.Json.Skip
import WarmupGate.Proofs.Json.Strings
import WarmupGate.Proofs.Text.Cut
import WarmupGate.Proofs.Text.Integer

/-!
# Skipping values

Every value that the format allows is skipped, whatever its size and however deep it nests, and what
follows it is left as it is. That nothing else is skipped is not said here.
-/
namespace WarmupGate.Json

variable {c : Char} {g s t rest : List Char}

theorem isGap_eq_true_iff : isGap c = true ↔ c = ' ' ∨ c = '\n' ∨ c = '\t' ∨ c = '\r' := by
  simp [isGap, or_assoc]

theorem gap_nil : Gap [] := nofun

theorem skipGap_append (gap : Gap g) (stop : ∀ x ∈ s.head?, isGap x = false) :
    skipGap (g ++ s) = s :=
  (Text.takeWhile_append_of_stop s (fun x member => isGap_eq_true_iff.2 (gap x member)) stop).2

theorem skipGap_append_cons (gap : Gap g) (stop : isGap c = false) :
    skipGap (g ++ c :: s) = c :: s :=
  skipGap_append gap (by simpa using stop)

/-- What follows a value does not go on with a number. -/
def Apart (s : List Char) : Prop :=
  ∀ c ∈ s.head?, Text.isDigit c = false ∧ c ≠ '.' ∧ c ≠ 'e' ∧ c ≠ 'E'

theorem Gap.apart (gap : Gap g) (apart : Apart s) : Apart (g ++ s) := by
  cases g with
  | nil => exact apart
  | cons c g =>
    intro x first
    obtain rfl : c = x := by simpa using first
    obtain rfl | rfl | rfl | rfl := gap c List.mem_cons_self <;> decide

theorem apart_cons (stop : Text.isDigit c = false ∧ c ≠ '.' ∧ c ≠ 'e' ∧ c ≠ 'E') :
    Apart (c :: s) := by
  simpa [Apart] using stop

theorem scanDigits_append {digits : List Char} (some : digits ≠ []) (all : Text.Digits digits)
    (stop : ∀ x ∈ rest.head?, Text.isDigit x = false) :
    scanDigits (digits ++ rest) = .ok (digits, rest) := by
  cases digits with
  | nil => exact absurd rfl some
  | cons d digits =>
    obtain ⟨first, others⟩ := Text.digits_cons.1 all
    obtain ⟨front, back⟩ := Text.takeWhile_append_of_stop rest others stop
    rw [List.cons_append, scanDigits, if_pos first, front, back]

theorem scanWhole_append {whole : List Char} (numeral : Text.IsNumeral whole)
    (stop : ∀ x ∈ rest.head?, Text.isDigit x = false) :
    scanWhole (whole ++ rest) = .ok (whole, rest) := by
  obtain ⟨some, all, bare⟩ := numeral
  cases whole with
  | nil => exact absurd rfl some
  | cons d whole =>
    by_cases zero : d = '0'
    · subst zero
      rw [bare rfl]
      cases rest with
      | nil => rfl
      | cons x rest => simp [scanWhole, stop x rfl]
    · obtain ⟨first, others⟩ := Text.digits_cons.1 all
      obtain ⟨front, back⟩ := Text.takeWhile_append_of_stop rest others stop
      rw [List.cons_append, scanWhole, if_pos first, front, back]
      exact fun same => zero same

theorem scanFraction_none (stop : ∀ x ∈ s.head?, x ≠ '.') : scanFraction s = .ok ([], s) := by
  rw [scanFraction]
  rintro tail rfl
  exact stop '.' rfl rfl

theorem scanFraction_append (isFraction : IsFraction s)
    (stop : ∀ x ∈ rest.head?, Text.isDigit x = false ∧ x ≠ '.') :
    ∃ digits, scanFraction (s ++ rest) = .ok (digits, rest) := by
  cases isFraction with
  | none => exact ⟨[], scanFraction_none fun x first => (stop x first).2⟩
  | some nonempty all =>
    exact ⟨_, scanDigits_append nonempty all fun x first => (stop x first).1⟩

theorem scanExponent_none (apart : Apart s) : scanExponent s = .ok ((false, []), s) := by
  cases s with
  | nil => rfl
  | cons x s =>
    obtain ⟨-, -, lower, upper⟩ := apart x rfl
    rw [scanExponent, if_neg (by simp [lower, upper])]

theorem scanExponent_append (isExponent : IsExponent s) (apart : Apart rest) :
    ∃ exponent, scanExponent (s ++ rest) = .ok (exponent, rest) := by
  cases isExponent with
  | none => exact ⟨(false, []), scanExponent_none apart⟩
  | @some e sign digits letter signs nonempty all =>
    have scanned := scanDigits_append nonempty all fun x first => (apart x first).1
    have split : (splitExponentSign (sign ++ digits ++ rest)).2 = digits ++ rest := by
      obtain rfl | rfl | rfl := signs
      · cases digits with
        | nil => exact absurd rfl nonempty
        | cons d digits =>
          have digit := (Text.digits_cons.1 all).1
          rw [List.nil_append, List.cons_append, splitExponentSign]
          all_goals
            intro tail same
            rw [(List.cons.inj same).1] at digit
            exact absurd digit (by decide)
      · rfl
      · rfl
    refine ⟨((splitExponentSign (sign ++ digits ++ rest)).1, digits), ?_⟩
    rw [List.cons_append, List.cons_append, scanExponent, if_pos letter]
    simp only [split, scanned, Except.map]

theorem IsExponent.stop (isExponent : IsExponent s) (apart : Apart rest) :
    ∀ x ∈ (s ++ rest).head?, Text.isDigit x = false ∧ x ≠ '.' := by
  cases isExponent with
  | none => exact fun x first => ⟨(apart x first).1, (apart x first).2.1⟩
  | some letter =>
    obtain rfl | rfl := letter <;> simp [Text.isDigit]

theorem IsFraction.stop (isFraction : IsFraction s)
    (behind : ∀ x ∈ rest.head?, Text.isDigit x = false ∧ x ≠ '.') :
    ∀ x ∈ (s ++ rest).head?, Text.isDigit x = false := by
  cases isFraction with
  | none => exact fun x first => (behind x first).1
  | some => simp [Text.isDigit]

theorem splitMinus_of_digit (digit : ∀ x ∈ s.head?, Text.isDigit x = true) :
    splitMinus s = (false, s) := by
  rw [splitMinus]
  rintro tail rfl
  exact absurd (digit '-' rfl) (by decide)

theorem scanNumeral_parts {sign whole fraction exponent digits : List Char}
    {power : Bool × List Char} (signs : sign = [] ∨ sign = ['-'])
    (numeral : Text.IsNumeral whole)
    (stop : ∀ x ∈ (fraction ++ (exponent ++ rest)).head?, Text.isDigit x = false)
    (places : scanFraction (fraction ++ (exponent ++ rest)) = .ok (digits, exponent ++ rest))
    (last : scanExponent (exponent ++ rest) = .ok (power, rest)) :
    scanNumeral (sign ++ (whole ++ (fraction ++ (exponent ++ rest)))) =
      .ok (⟨(splitMinus sign).1, whole, digits, power.1, power.2⟩, rest) := by
  have split : splitMinus (sign ++ (whole ++ (fraction ++ (exponent ++ rest)))) =
      ((splitMinus sign).1, whole ++ (fraction ++ (exponent ++ rest))) := by
    obtain rfl | rfl := signs
    · rw [List.nil_append, splitMinus_of_digit]
      · rfl
      · intro x first
        obtain ⟨d, others, rfl⟩ := List.exists_cons_of_ne_nil numeral.some
        obtain rfl : d = x := by simpa using first
        exact (Text.digits_cons.1 numeral.digits).1
    · rfl
  simp only [scanNumeral, split, scanWhole_append numeral stop, places, last, bind, Except.bind,
    pure, Except.pure]

theorem scanNumeral_append (isNumber : IsNumber s) (apart : Apart rest) :
    ∃ n, scanNumeral (s ++ rest) = .ok (n, rest) := by
  obtain ⟨signs, numeral, isFraction, isExponent⟩ := isNumber
  have behind := isExponent.stop apart
  obtain ⟨digits, places⟩ := scanFraction_append isFraction behind
  obtain ⟨power, last⟩ := scanExponent_append isExponent apart
  simp only [List.append_assoc]
  exact ⟨_, scanNumeral_parts signs numeral (isFraction.stop behind) places last⟩

theorem scanNumeral_numeral (numeral : Text.IsNumeral s) (apart : Apart rest) :
    scanNumeral (s ++ rest) = .ok ({ negative := false, whole := s }, rest) := by
  have stop : ∀ x ∈ ([] ++ ([] ++ rest)).head?, Text.isDigit x = false :=
    fun x first => (apart x first).1
  exact scanNumeral_parts (.inl rfl) numeral stop
    (scanFraction_none fun x first => (apart x first).2.1) (scanExponent_none apart)

theorem IsNumber.exists_cons (isNumber : IsNumber s) :
    ∃ c t, s = c :: t ∧ (c = '-' ∨ Text.isDigit c = true) := by
  obtain ⟨signs, numeral, -, -⟩ := isNumber
  obtain rfl | rfl := signs
  · obtain ⟨d, others, rfl⟩ := List.exists_cons_of_ne_nil numeral.some
    exact ⟨d, _, rfl, .inr (Text.digits_cons.1 numeral.digits).1⟩
  · exact ⟨'-', _, rfl, .inl rfl⟩

theorem ne_of_number {x : Char} (h : c = '-' ∨ Text.isDigit c = true)
    (other : ¬ (x = '-' ∨ Text.isDigit x = true)) : c ≠ x :=
  fun same => other (same ▸ h)

theorem isGap_of_number (h : c = '-' ∨ Text.isDigit c = true) : isGap c = false := by
  cases gap : isGap c with
  | false => rfl
  | true => obtain rfl | rfl | rfl | rfl := isGap_eq_true_iff.1 gap <;> exact absurd h (by decide)

theorem skipNumeral_append (isNumber : IsNumber s) (apart : Apart rest) :
    skipNumeral (s ++ rest) = .ok rest := by
  obtain ⟨n, scanned⟩ := scanNumeral_append isNumber apart
  rw [skipNumeral, scanned]

theorem skipColon_append (gap : Gap g) (s : List Char) : skipColon (g ++ ':' :: s) = .ok s := by
  unfold skipColon
  simp only [skipGap_append_cons gap (by decide : isGap ':' = false)]

theorem skipWith_number {fuel : Nat} (gap : Gap g) (isNumber : IsNumber s) (apart : Apart rest) :
    skipWith (fuel + 1) (g ++ (s ++ rest)) = .ok rest := by
  obtain ⟨c, t, rfl, first⟩ := isNumber.exists_cons
  have scanned := skipNumeral_append isNumber apart
  rw [List.cons_append] at scanned ⊢
  unfold skipWith
  rw [skipGap_append_cons gap (isGap_of_number first)]
  split
  · contradiction
  -- no other value starts like a number
  case h_8 same =>
    obtain ⟨rfl, rfl⟩ := List.cons.inj same
    rwa [if_pos first]
  all_goals
    rename_i same
    exact absurd (List.cons.inj same).1 (ne_of_number first (by decide))

theorem Padded.chars_append (p : Padded) (rest : List Char) :
    p.chars ++ rest = p.before ++ (p.text ++ (p.after ++ rest)) := by
  simp [Padded.chars]

theorem Padded.length_text_le (p : Padded) : p.text.length ≤ p.chars.length := by
  simp only [Padded.chars, List.length_append]
  omega

/-- What stands behind the quote that opens a member's name. -/
def Slot.behind (m : Slot) (rest : List Char) : List Char :=
  m.body ++ '"' :: (m.between ++ ':' :: (m.value.before ++ (m.value.text ++
    (m.value.after ++ rest))))

theorem Slot.chars_append (m : Slot) (rest : List Char) :
    m.chars ++ rest = m.before ++ '"' :: m.behind rest := by
  simp [Slot.chars, Slot.behind, Padded.chars, quoted]

theorem Slot.length_text_lt (m : Slot) : m.value.text.length + 2 ≤ m.chars.length := by
  have text := m.value.length_text_le
  simp only [Slot.chars, quoted, List.length_append, List.length_cons]
  omega

/-- Parts behind others, each with a comma, up to the bracket on the right. -/
def closing (right : Char) (parts : List (List Char)) (rest : List Char) : List Char :=
  parts.flatMap (',' :: ·) ++ right :: rest

theorem closing_nil (right : Char) (rest : List Char) : closing right [] rest = right :: rest := rfl

theorem closing_cons (right : Char) (p : List Char) (ps : List (List Char)) (rest : List Char) :
    closing right (p :: ps) rest = ',' :: (p ++ closing right ps rest) := by
  simp [closing]

theorem closing_append (right : Char) (ps : List (List Char)) (s rest : List Char) :
    closing right ps s ++ rest = closing right ps (s ++ rest) := by
  simp [closing]

theorem intercalate_comma (p : List Char) (ps : List (List Char)) :
    [','].intercalate (p :: ps) = p ++ ps.flatMap (',' :: ·) := by
  induction ps generalizing p with
  | nil => simp
  | cons q ps ih =>
    rw [List.intercalate_cons_cons, ih, List.flatMap_cons]
    simp

theorem apart_closing {right : Char}
    (stop : Text.isDigit right = false ∧ right ≠ '.' ∧ right ≠ 'e' ∧ right ≠ 'E')
    (ps : List (List Char)) (rest : List Char) : Apart (closing right ps rest) := by
  cases ps with
  | nil => exact apart_cons stop
  | cons p ps =>
    rw [closing_cons]
    exact apart_cons (by decide)

/-- An enclosed text has nothing but blanks inside, or a first part and the others behind it. -/
theorem Enclosed.shape {left right : Char} {parts : List (List Char)}
    (h : Enclosed left right parts s) :
    (parts = [] ∧ ∃ gap, Gap gap ∧ s = left :: (gap ++ [right])) ∨
      ∃ p ps, parts = p :: ps ∧ s = left :: (p ++ closing right ps []) := by
  cases h with
  | none gap => exact .inl ⟨rfl, _, gap, rfl⟩
  | some nonempty =>
    obtain ⟨p, ps, rfl⟩ := List.exists_cons_of_ne_nil nonempty
    exact .inr ⟨p, ps, rfl, by simp [intercalate_comma, closing]⟩

theorem enclosed_closing (left right : Char) (p : List Char) (ps : List (List Char)) :
    Enclosed left right (p :: ps) (left :: (p ++ closing right ps [])) := by
  have enclosed : Enclosed left right (p :: ps) (left :: [','].intercalate (p :: ps) ++ [right]) :=
    .some (List.cons_ne_nil _ _)
  simpa [intercalate_comma, closing] using enclosed

theorem length_lt_closing (right : Char) (ps : List (List Char)) (rest : List Char) :
    ps.length < (closing right ps rest).length := by
  induction ps with
  | nil => exact Nat.zero_lt_succ _
  | cons p ps ih =>
    rw [closing_cons, List.length_cons, List.length_cons, List.length_append]
    omega

theorem length_lt_of_enclosed {left right : Char} {parts : List (List Char)}
    (enclosed : Enclosed left right parts s) : parts.length < s.length := by
  obtain ⟨rfl, _, -, rfl⟩ | ⟨p, ps, rfl, rfl⟩ := enclosed.shape
  · exact Nat.zero_lt_succ _
  · have others := length_lt_closing right ps []
    rw [List.length_cons, List.length_cons, List.length_append]
    omega

/-- A text is skipped with as much fuel as it is long. -/
def Skipped (s : List Char) : Prop :=
  ∀ {fuel : Nat} {g rest : List Char}, s.length ≤ fuel → Gap g → Apart rest →
    skipWith fuel (g ++ (s ++ rest)) = .ok rest

/-- The first character of a value tells its kind. -/
inductive Headed : Char → List Char → Prop
  | null : Headed 'n' ['u', 'l', 'l']
  | isTrue : Headed 't' ['r', 'u', 'e']
  | isFalse : Headed 'f' ['a', 'l', 's', 'e']
  | number {c : Char} {t : List Char} : c = '-' ∨ Text.isDigit c = true → IsNumber (c :: t) →
      Headed c t
  | string {body : List Char} : IsBody body → Headed '"' (body ++ ['"'])
  | array {items : List Padded} {t : List Char} :
      Enclosed '[' ']' (items.map Padded.chars) ('[' :: t) → (∀ i ∈ items, IsValue i.text) →
      Headed '[' t
  | object {slots : List Slot} {t : List Char} :
      Enclosed '\x7b' '\x7d' (slots.map Slot.chars) ('\x7b' :: t) →
      (∀ m ∈ slots, IsBody m.body) → (∀ m ∈ slots, IsValue m.value.text) → Headed '\x7b' t

theorem IsValue.exists_headed (isValue : IsValue s) : ∃ c t, s = c :: t ∧ Headed c t := by
  cases isValue with
  | null => exact ⟨_, _, rfl, .null⟩
  | isTrue => exact ⟨_, _, rfl, .isTrue⟩
  | isFalse => exact ⟨_, _, rfl, .isFalse⟩
  | number isNumber =>
    obtain ⟨c, t, rfl, first⟩ := isNumber.exists_cons
    exact ⟨c, t, rfl, .number first isNumber⟩
  | string isBody => exact ⟨_, _, rfl, .string isBody⟩
  | array enclosed isValue =>
    obtain ⟨-, _, -, rfl⟩ | ⟨_, _, -, rfl⟩ := enclosed.shape <;>
      exact ⟨_, _, rfl, .array enclosed isValue⟩
  | object enclosed isBody isValue =>
    obtain ⟨-, _, -, rfl⟩ | ⟨_, _, -, rfl⟩ := enclosed.shape <;>
      exact ⟨_, _, rfl, .object enclosed isBody isValue⟩

/-- A value starts with a character that is neither a blank nor a bracket on the right. -/
theorem Headed.stop (headed : Headed c t) : isGap c = false ∧ c ≠ ']' := by
  cases headed with
  | number first => exact ⟨isGap_of_number first, ne_of_number first (by decide)⟩
  | _ => exact ⟨by decide, by decide⟩

theorem IsValue.length_pos (isValue : IsValue s) : 0 < s.length := by
  obtain ⟨c, t, rfl, -⟩ := isValue.exists_headed
  exact Nat.zero_lt_succ _

theorem skipItems_closing {items : List Padded} (skipped : ∀ i ∈ items, Skipped i.text)
    {fuel : Nat} (enough : (closing ']' (items.map Padded.chars) []).length ≤ fuel) (gap : Gap g)
    (rest : List Char) :
    skipItems fuel (g ++ closing ']' (items.map Padded.chars) rest) = .ok rest := by
  induction items generalizing fuel g with
  | nil =>
    obtain ⟨fuel, rfl⟩ := Nat.exists_eq_add_of_le' enough
    change skipItems (fuel + 1) (g ++ ']' :: rest) = .ok rest
    unfold skipItems
    simp only [skipGap_append_cons gap (by decide : isGap ']' = false)]
  | cons i items ih =>
    obtain ⟨first, others⟩ := List.forall_mem_cons.1 skipped
    rw [List.map_cons, closing_cons, List.length_cons, List.length_append] at enough
    obtain ⟨fuel, rfl⟩ := Nat.exists_eq_add_of_le' (Nat.le_of_add_left_le enough)
    have text := i.length_text_le
    have behind : Apart (i.after ++ closing ']' (items.map Padded.chars) rest) :=
      i.gap_after.apart (apart_closing (by decide) _ _)
    rw [List.map_cons, closing_cons, Padded.chars_append]
    unfold skipItems
    simp only [skipGap_append_cons gap (by decide : isGap ',' = false),
      first (by omega : i.text.length ≤ fuel) i.gap_before behind, Except.bind]
    exact ih others (by omega) i.gap_after

theorem skipMember_append {m : Slot} (isBody : IsBody m.body) (skipped : Skipped m.value.text)
    {fuel : Nat} (enough : m.chars.length ≤ fuel) (gap : Gap g) (apart : Apart rest) :
    skipMember fuel (g ++ '"' :: m.behind rest) = .ok (m.value.after ++ rest) := by
  have text := m.length_text_lt
  obtain ⟨fuel, rfl⟩ := Nat.exists_eq_add_of_le' (by omega : 1 ≤ fuel)
  unfold skipMember Slot.behind
  simp only [skipGap_append_cons gap (by decide : isGap '"' = false), skipString_append isBody,
    skipColon_append m.gap_between, Except.bind]
  exact skipped (by omega) m.value.gap_before (m.value.gap_after.apart apart)

theorem skipMembers_closing {slots : List Slot} (isBody : ∀ m ∈ slots, IsBody m.body)
    (skipped : ∀ m ∈ slots, Skipped m.value.text) {fuel : Nat}
    (enough : (closing '\x7d' (slots.map Slot.chars) []).length ≤ fuel) (gap : Gap g)
    (rest : List Char) :
    skipMembers fuel (g ++ closing '\x7d' (slots.map Slot.chars) rest) = .ok rest := by
  induction slots generalizing fuel g with
  | nil =>
    obtain ⟨fuel, rfl⟩ := Nat.exists_eq_add_of_le' enough
    change skipMembers (fuel + 1) (g ++ '\x7d' :: rest) = .ok rest
    unfold skipMembers
    simp only [skipGap_append_cons gap (by decide : isGap '\x7d' = false)]
  | cons m slots ih =>
    obtain ⟨body, bodies⟩ := List.forall_mem_cons.1 isBody
    obtain ⟨first, others⟩ := List.forall_mem_cons.1 skipped
    rw [List.map_cons, closing_cons, List.length_cons, List.length_append] at enough
    obtain ⟨fuel, rfl⟩ := Nat.exists_eq_add_of_le' (Nat.le_of_add_left_le enough)
    have behind : Apart (closing '\x7d' (slots.map Slot.chars) rest) :=
      apart_closing (by decide) _ _
    rw [List.map_cons, closing_cons, Slot.chars_append]
    unfold skipMembers
    simp only [skipGap_append_cons gap (by decide : isGap ',' = false),
      skipMember_append body first (by omega : m.chars.length ≤ fuel) m.gap_before behind,
      Except.bind]
    exact ih bodies others (by omega) m.value.gap_after

theorem skipWith_list {fuel : Nat} (gap : Gap g) (inside : skipGap s = c :: t) (item : c ≠ ']') :
    skipWith (fuel + 1) (g ++ '[' :: s) = (skipWith fuel (c :: t)).bind (skipItems fuel) := by
  rw [skipWith]
  simp only [skipGap_append_cons gap (by decide : isGap '[' = false), inside]
  split
  · rename_i same
    exact absurd (List.cons.inj same).1 item
  · contradiction
  · rfl

theorem skipWith_object {fuel : Nat} (gap : Gap g) (inside : skipGap s = c :: t)
    (member : c ≠ '\x7d') : skipWith (fuel + 1) (g ++ '\x7b' :: s) =
      (skipMember fuel (c :: t)).bind (skipMembers fuel) := by
  rw [skipWith]
  simp only [skipGap_append_cons gap (by decide : isGap '\x7b' = false), inside]
  split
  · rename_i same
    exact absurd (List.cons.inj same).1 member
  · rfl

theorem skipped_array {items : List Padded} (enclosed : Enclosed '[' ']' (items.map Padded.chars) s)
    (isValue : ∀ i ∈ items, IsValue i.text) (skipped : ∀ i ∈ items, Skipped i.text) :
    Skipped s := by
  intro fuel g rest enough gap _
  obtain ⟨-, inner, innerGap, rfl⟩ | ⟨p, ps, parts, rfl⟩ := enclosed.shape
  · obtain ⟨fuel, rfl⟩ := Nat.exists_eq_add_of_le' (Nat.le_of_add_left_le enough)
    simp only [List.cons_append, List.append_assoc, List.nil_append]
    unfold skipWith
    simp only [skipGap_append_cons gap (by decide : isGap '[' = false),
      skipGap_append_cons innerGap (by decide : isGap ']' = false)]
  · obtain ⟨i, items, rfl, rfl, rfl⟩ := List.map_eq_cons_iff.1 parts
    obtain ⟨fuel, rfl⟩ := Nat.exists_eq_add_of_le' (Nat.le_of_add_left_le enough)
    rw [List.length_cons, List.length_append] at enough
    obtain ⟨first, others⟩ := List.forall_mem_cons.1 skipped
    obtain ⟨c, t, start, headed⟩ := (isValue i List.mem_cons_self).exists_headed
    have behind : Apart (i.after ++ closing ']' (items.map Padded.chars) rest) :=
      i.gap_after.apart (apart_closing (by decide) _ _)
    have text := i.length_text_le
    have skippedFirst := first (by omega : i.text.length ≤ fuel) gap_nil behind
    rw [List.nil_append, start, List.cons_append] at skippedFirst
    rw [List.cons_append, List.append_assoc, closing_append, List.nil_append,
      Padded.chars_append, start, List.cons_append,
      skipWith_list gap (skipGap_append_cons i.gap_before headed.stop.1) headed.stop.2,
      skippedFirst]
    exact skipItems_closing others (by omega) i.gap_after rest

theorem skipped_object {slots : List Slot}
    (enclosed : Enclosed '\x7b' '\x7d' (slots.map Slot.chars) s)
    (isBody : ∀ m ∈ slots, IsBody m.body) (skipped : ∀ m ∈ slots, Skipped m.value.text) :
    Skipped s := by
  intro fuel g rest enough gap _
  obtain ⟨-, inner, innerGap, rfl⟩ | ⟨p, ps, parts, rfl⟩ := enclosed.shape
  · obtain ⟨fuel, rfl⟩ := Nat.exists_eq_add_of_le' (Nat.le_of_add_left_le enough)
    simp only [List.cons_append, List.append_assoc, List.nil_append]
    unfold skipWith
    simp only [skipGap_append_cons gap (by decide : isGap '\x7b' = false),
      skipGap_append_cons innerGap (by decide : isGap '\x7d' = false)]
  · obtain ⟨m, slots, rfl, rfl, rfl⟩ := List.map_eq_cons_iff.1 parts
    obtain ⟨fuel, rfl⟩ := Nat.exists_eq_add_of_le' (Nat.le_of_add_left_le enough)
    rw [List.length_cons, List.length_append] at enough
    obtain ⟨body, bodies⟩ := List.forall_mem_cons.1 isBody
    obtain ⟨first, others⟩ := List.forall_mem_cons.1 skipped
    have behind : Apart (closing '\x7d' (slots.map Slot.chars) rest) :=
      apart_closing (by decide) _ _
    have skippedFirst := skipMember_append body first (by omega : m.chars.length ≤ fuel) gap_nil
      behind
    rw [List.nil_append] at skippedFirst
    rw [List.cons_append, List.append_assoc, closing_append, List.nil_append, Slot.chars_append,
      skipWith_object gap (skipGap_append_cons m.gap_before (by decide)) (by decide), skippedFirst]
    exact skipMembers_closing bodies others (by omega) m.value.gap_after rest

theorem IsValue.skipped (isValue : IsValue s) : Skipped s := by
  induction isValue with
  | null | isTrue | isFalse =>
    intro fuel g rest enough gap _
    obtain ⟨fuel, rfl⟩ := Nat.exists_eq_add_of_le' (Nat.le_of_add_left_le enough)
    simp only [List.cons_append, List.nil_append]
    unfold skipWith
    simp [skipGap_append_cons gap, isGap, scanWord]
  | number isNumber =>
    intro fuel g rest enough gap apart
    have some := (IsValue.number isNumber).length_pos
    obtain ⟨fuel, rfl⟩ := Nat.exists_eq_add_of_le' (Nat.le_trans some enough)
    exact skipWith_number gap isNumber apart
  | string isBody =>
    intro fuel g rest enough gap _
    obtain ⟨fuel, rfl⟩ := Nat.exists_eq_add_of_le' (Nat.le_of_add_left_le enough)
    simp only [quoted, List.cons_append, List.append_assoc, List.nil_append]
    unfold skipWith
    simp only [skipGap_append_cons gap (by decide : isGap '"' = false), skipString_append isBody]
  | array enclosed isValue ih => exact skipped_array enclosed isValue ih
  | object enclosed isBody _ ih => exact skipped_object enclosed isBody ih

theorem skipValue_append (isValue : IsValue s) (gap : Gap g) (apart : Apart rest) :
    skipValue (g ++ (s ++ rest)) = .ok rest := by
  apply isValue.skipped _ gap apart
  simp only [List.length_append]
  omega

end WarmupGate.Json
