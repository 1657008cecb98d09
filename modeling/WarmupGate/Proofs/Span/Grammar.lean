import WarmupGate.Proofs.Text.Cut
import WarmupGate.Proofs.Text.Integer
import WarmupGate.Span.Grammar

/-!
# Reading spans follows the grammar

The reader splits a text into components at the places where the grammar has them. Every text is
refused for one reason however the program is built, or read as what the grammar says that it means,
or it overflows: then a checked build stops, and nothing is said of an unchecked one. So a checked
build accepts exactly the texts that have a meaning, and so does an unchecked one unless the text
overflows.
-/
namespace WarmupGate.Span

variable {s t rest unit number whole fraction : List Char} {c : Component} {cs : List Component}
  {n m scale total : Nat}

theorem unitNanos_eq_some_iff : unitNanos unit = some n ↔ IsUnit unit n := by
  constructor
  · intro h
    unfold unitNanos at h
    split at h <;> cases h <;> constructor
  · intro h
    cases h <;> rfl

theorem IsUnit.not_startsNumber (h : IsUnit unit scale) :
    ∀ x ∈ unit, (!startsNumber x) = true := by
  have all : unit.all (!startsNumber ·) = true := by cases h <;> rfl
  exact List.all_eq_true.1 all

theorem IsUnit.ne_nil (h : IsUnit unit scale) : unit ≠ [] := by
  cases h <;> exact List.cons_ne_nil _ _

theorem IsUnit.scale_pos (h : IsUnit unit scale) : 0 < scale := by
  cases h <;> decide

theorem IsUnit.scale_le (h : IsUnit unit scale) : scale ≤ 3600000000000 := by
  cases h <;> decide

theorem startsNumber_of_isDigit {x : Char} (h : Text.isDigit x = true) :
    startsNumber x = true := by
  simp [startsNumber, h]

theorem IsNumber.exists_cons (h : IsNumber number whole fraction) :
    ∃ x tail, number = x :: tail ∧ startsNumber x = true := by
  cases h with
  | whole digits some =>
    obtain ⟨x, tail, rfl⟩ := List.exists_cons_of_ne_nil some
    exact ⟨x, tail, rfl, startsNumber_of_isDigit (digits x List.mem_cons_self)⟩
  | pointed digits some =>
    obtain ⟨x, tail, rfl⟩ := List.exists_cons_of_ne_nil some
    exact ⟨x, _, rfl, startsNumber_of_isDigit (digits x List.mem_cons_self)⟩
  | fraction => exact ⟨'.', _, rfl, rfl⟩

theorem atNumber_nil : AtNumber [] := nofun

/-- Behind a number there is a unit, which is neither a digit nor a point. -/
theorem IsUnit.stop (h : IsUnit unit scale) (rest : List Char) :
    ∀ x ∈ (unit ++ rest).head?, Text.isDigit x = false ∧ x ≠ '.' := by
  intro x hx
  obtain ⟨y, tail, rfl⟩ := List.exists_cons_of_ne_nil h.ne_nil
  obtain rfl : y = x := by simpa using hx
  have kind := h.not_startsNumber y List.mem_cons_self
  simpa [startsNumber] using kind

theorem splitFraction_of_unit (h : IsUnit unit scale) (rest : List Char) :
    splitFraction (unit ++ rest) = ([], unit ++ rest) := by
  cases h <;> rfl

theorem splitComponent_of_spells (h : c.Spells s n) (next : AtNumber rest) :
    splitComponent (s ++ rest) = (c, rest) := by
  obtain ⟨isNumber, isUnit⟩ := h
  rename_i number whole fraction unit scale
  have behind := isUnit.stop rest
  have ends : (unit ++ rest).takeWhile (!startsNumber ·) = unit ∧
      (unit ++ rest).dropWhile (!startsNumber ·) = rest :=
    Text.takeWhile_append_of_stop rest isUnit.not_startsNumber fun x hx => by simp [next x hx]
  cases isNumber with
  | whole digits some =>
    obtain ⟨front, back⟩ :=
      Text.takeWhile_append_of_stop (unit ++ rest) digits fun x hx => (behind x hx).1
    simp only [splitComponent, List.append_assoc, front, back, splitFraction_of_unit isUnit, ends]
  | pointed digits some places =>
    obtain ⟨front, back⟩ := Text.takeWhile_append_of_stop ('.' :: (fraction ++ (unit ++ rest)))
      digits (by simp [Text.isDigit])
    obtain ⟨front', back'⟩ :=
      Text.takeWhile_append_of_stop (unit ++ rest) places fun x hx => (behind x hx).1
    simp only [splitComponent, List.append_assoc, List.cons_append, front, back, splitFraction,
      front', back', ends]
  | fraction places some =>
    obtain ⟨front, back⟩ :=
      Text.takeWhile_append_of_stop (unit ++ rest) places fun x hx => (behind x hx).1
    have none : ('.' :: (fraction ++ (unit ++ rest))).takeWhile Text.isDigit = [] ∧
        ('.' :: (fraction ++ (unit ++ rest))).dropWhile Text.isDigit =
          '.' :: (fraction ++ (unit ++ rest)) := ⟨rfl, rfl⟩
    simp only [splitComponent, List.append_assoc, List.cons_append, none, splitFraction,
      front, back, ends]

theorem IsUnit.scale_unique {a b : Nat} (h : IsUnit unit a) (h' : IsUnit unit b) : a = b := by
  have same := (unitNanos_eq_some_iff.2 h).symm.trans (unitNanos_eq_some_iff.2 h')
  exact Option.some.inj same

theorem fractionNanos_lt (digits : Text.Digits fraction) (some : 0 < scale) :
    fractionNanos scale fraction < scale := by
  have value : Text.digitsValue (fraction.take 18) < Text.tenPower (fraction.take 18).length :=
    Text.digitsValue_lt fun x hx => digits x (List.mem_of_mem_take hx)
  have power : 0 < Text.tenPower (fraction.take 18).length := Nat.zero_lt_of_lt value
  rw [fractionNanos, Nat.div_lt_iff_lt_mul power, Nat.mul_comm scale]
  exact Nat.mul_lt_mul_of_pos_right value some

theorem Component.Spells.digits (h : c.Spells s n) : Text.Digits c.fraction := by
  obtain ⟨isNumber, -⟩ := h
  cases isNumber with
  | whole => exact Text.digits_nil
  | pointed _ _ places => exact places
  | fraction places => exact places

/-- A component is refused for a reason that every build gives, or it has digits and a unit and its
whole units fit into a wide word. -/
theorem nanos_cases (c : Component) :
    (∃ fault, fault ≠ .overflow ∧ ∀ b, c.nanos b = .error fault) ∨
      (c.whole ≠ [] ∨ c.fraction ≠ []) ∧ c.WholeFits ∧ ∃ scale, IsUnit c.unit scale := by
  unfold Component.nanos
  by_cases none : c.whole.isEmpty && c.fraction.isEmpty
  · exact .inl ⟨.numberExpected, by simp, fun b => if_pos none⟩
  · by_cases bare : c.unit.isEmpty
    · exact .inl ⟨.unitMissing, by simp, fun b => by rw [if_neg none, if_pos bare]⟩
    · simp only [if_neg none, if_neg bare]
      cases unit : unitNanos c.unit with
      | none => exact .inl ⟨.unitUnknown _, by simp, fun b => rfl⟩
      | some scale =>
        have isUnit := unitNanos_eq_some_iff.1 unit
        by_cases value : wide ≤ Text.digitsValue c.whole
        · exact .inl ⟨.numberOutOfRange, by simp, fun b => if_pos value⟩
        · by_cases product : wide ≤ Text.digitsValue c.whole * scale
          · exact .inl ⟨.outOfRange, by simp, fun b => by simp only [if_neg value, if_pos product]⟩
          · refine .inr ⟨?_, fun other isUnit' => ?_, scale, isUnit⟩
            · by_cases empty : c.whole = []
              · exact .inr fun empty' => none (by simp [empty, empty'])
              · exact .inl empty
            · rw [isUnit'.scale_unique isUnit]
              exact Nat.lt_of_not_le product

theorem Component.Spells.value (h : c.Spells s n) :
    ∃ scale, IsUnit c.unit scale ∧
      n = Text.digitsValue c.whole * scale + fractionNanos scale c.fraction := by
  obtain ⟨-, isUnit⟩ := h
  exact ⟨_, isUnit, rfl⟩

/-- The whole units of a component whose value fits into a wide word do so, too. -/
theorem Component.Spells.wholeFits (h : c.Spells s n) (fits : n < wide) : c.WholeFits := by
  obtain ⟨scale, isUnit, value⟩ := h.value
  intro scale' isUnit'
  rw [isUnit'.scale_unique isUnit]
  omega

theorem nanos_of_wholeFits (h : c.Spells s n) (fits : c.WholeFits) :
    ∃ whole part, n = whole + part ∧ ∀ b : Build, c.nanos b = b.add whole part := by
  obtain ⟨isNumber, isUnit⟩ := h
  rename_i number whole fraction unit scale
  have someDigits : (whole.isEmpty && fraction.isEmpty) = false := by
    cases isNumber <;> simp [*]
  have someUnit : unit.isEmpty = false := by simp [isUnit.ne_nil]
  have product : Text.digitsValue whole * scale < wide := fits scale isUnit
  have value : Text.digitsValue whole < wide :=
    Nat.lt_of_le_of_lt (Nat.le_mul_of_pos_right _ isUnit.scale_pos) product
  refine ⟨_, _, rfl, fun b => ?_⟩
  simp only [Component.nanos, someDigits, someUnit, unitNanos_eq_some_iff.2 isUnit,
    Nat.not_le.2 value, Nat.not_le.2 product, Bool.false_eq_true, if_false]
  rfl

theorem nanos_of_spells (h : c.Spells s n) (fits : n < wide) (b : Build) : c.nanos b = .ok n := by
  obtain ⟨whole, part, rfl, nanos⟩ := nanos_of_wholeFits h (h.wholeFits fits)
  rw [nanos, Build.add_of_lt fits]

/-- A checked build stops at a component whose whole units fit and whose value does not. -/
theorem nanos_of_wide (h : c.Spells s n) (fits : c.WholeFits) (beyond : wide ≤ n) :
    c.nanos .checked = .error .overflow := by
  obtain ⟨whole, part, rfl, nanos⟩ := nanos_of_wholeFits h fits
  rw [nanos, Build.add_checked_of_le beyond]

theorem digits_takeWhile (s : List Char) : Text.Digits (s.takeWhile Text.isDigit) :=
  fun x hx => List.all_eq_true.1 List.all_takeWhile x hx

theorem exists_isNumber (s : List Char)
    (some : s.takeWhile Text.isDigit ≠ [] ∨ (splitFraction (s.dropWhile Text.isDigit)).1 ≠ []) :
    ∃ number, IsNumber number (s.takeWhile Text.isDigit)
        (splitFraction (s.dropWhile Text.isDigit)).1 ∧
      s = number ++ (splitFraction (s.dropWhile Text.isDigit)).2 := by
  have parts := (List.takeWhile_append_dropWhile (p := Text.isDigit) (l := s)).symm
  have whole := digits_takeWhile s
  revert some parts whole
  generalize s.takeWhile Text.isDigit = front
  generalize s.dropWhile Text.isDigit = back
  intro some parts whole
  unfold splitFraction at some ⊢
  split at some
  · rename_i tail
    have fraction := digits_takeWhile tail
    refine ⟨front ++ '.' :: tail.takeWhile Text.isDigit, ?_, ?_⟩
    · by_cases empty : front = []
      · subst empty
        exact .fraction fraction (some.resolve_left fun none => none rfl)
      · exact .pointed whole empty fraction
    · rw [parts, List.append_assoc, List.cons_append, List.takeWhile_append_dropWhile]
  · exact ⟨front, .whole whole (some.resolve_right fun none => none rfl), parts⟩

theorem atNumber_splitComponent (s : List Char) : AtNumber (splitComponent s).2 := by
  intro x hx
  have stops := List.head?_dropWhile_not (!startsNumber ·)
    (splitFraction (s.dropWhile Text.isDigit)).2
  rw [show List.dropWhile (!startsNumber ·) (splitFraction (s.dropWhile Text.isDigit)).2 =
    (splitComponent s).2 from rfl, Option.mem_def.1 hx] at stops
  simpa using stops

/-- At any place the reader refuses a component as every build does, or the grammar has it there and
its whole units fit. -/
theorem splitComponent_cases (s : List Char) :
    (∃ fault, fault ≠ .overflow ∧ ∀ b, (splitComponent s).1.nanos b = .error fault) ∨
      ∃ text n, s = text ++ (splitComponent s).2 ∧ (splitComponent s).1.Spells text n ∧
        (splitComponent s).1.WholeFits := by
  rcases nanos_cases (splitComponent s).1 with refused | ⟨some, fits, scale, isUnit⟩
  · exact .inl refused
  · obtain ⟨number, isNumber, parts⟩ := exists_isNumber s some
    refine .inr ⟨number ++ (splitComponent s).1.unit, _, ?_, .intro isNumber isUnit, fits⟩
    rw [List.append_assoc, splitComponent, List.takeWhile_append_dropWhile]
    exact parts

theorem Component.Spells.exists_cons (h : c.Spells s n) :
    ∃ x y tail, s = x :: y :: tail ∧ startsNumber x = true := by
  obtain ⟨isNumber, isUnit⟩ := h
  obtain ⟨x, tail, rfl, starts⟩ := isNumber.exists_cons
  obtain ⟨y, tail', rfl⟩ := List.exists_cons_of_ne_nil isUnit.ne_nil
  cases tail with
  | nil => exact ⟨x, y, tail', rfl, starts⟩
  | cons z tail => exact ⟨x, z, _, rfl, starts⟩

theorem Component.Spells.atNumber (h : c.Spells s n) : AtNumber s := by
  obtain ⟨x, y, tail, rfl, starts⟩ := h.exists_cons
  simpa [AtNumber] using starts

theorem Spells.exists_cons (h : Spells cs s total) :
    ∃ x y tail, s = x :: y :: tail ∧ startsNumber x = true := by
  cases h with
  | last h => exact h.exists_cons
  | cons h =>
    obtain ⟨x, y, tail, rfl, starts⟩ := h.exists_cons
    exact ⟨x, y, _, rfl, starts⟩

theorem Spells.atNumber (h : Spells cs s total) : AtNumber s := by
  obtain ⟨x, y, tail, rfl, starts⟩ := h.exists_cons
  simpa [AtNumber] using starts

theorem sumComponents_nil (b : Build) (total : Nat) : sumComponents b total [] = .ok total := by
  rw [sumComponents, if_pos rfl]

theorem sumComponents_of_error {b : Build} {fault : Fault} (some : s ≠ [])
    (h : (splitComponent s).1.nanos b = .error fault) :
    sumComponents b total s = .error fault := by
  rw [sumComponents, if_neg some]
  split
  · exact h.symm.trans ‹_› ▸ rfl
  · cases h.symm.trans ‹_›

theorem sumComponents_of_ok {b : Build} (some : s ≠ [])
    (h : (splitComponent s).1.nanos b = .ok n) :
    sumComponents b total s =
      if wide ≤ total + n then .error .outOfRange
      else sumComponents b (total + n) (splitComponent s).2 := by
  rw [sumComponents, if_neg some]
  split
  · cases h.symm.trans ‹_›
  · cases h.symm.trans ‹_›
    rfl

theorem sumComponents_append (h : c.Spells s n) (next : AtNumber rest) (fits : total + n < wide)
    (b : Build) : sumComponents b total (s ++ rest) = sumComponents b (total + n) rest := by
  obtain ⟨x, y, tail, some, -⟩ := h.exists_cons
  have front := splitComponent_of_spells h next
  have nanos : (splitComponent (s ++ rest)).1.nanos b = .ok n := by
    rw [front]
    exact nanos_of_spells h (Nat.lt_of_le_of_lt (Nat.le_add_left n total) fits) b
  rw [sumComponents_of_ok (by simp [some]) nanos, if_neg (Nat.not_le.2 fits), front]

theorem wide_pos : 0 < wide := Word.size_pos 128

theorem Leads.sum_lt (h : Leads s n) : n < wide := by
  cases h with
  | nil => exact wide_pos
  | sum _ small => exact small

theorem Leads.atNumber_append (h : Leads s n) (next : AtNumber rest) : AtNumber (s ++ rest) := by
  cases h with
  | nil => exact next
  | sum spells =>
    obtain ⟨x, y, tail, rfl, starts⟩ := spells.exists_cons
    simpa [AtNumber] using starts

/-- The reader adds up what the grammar adds up, up to any place where a number begins. -/
theorem sumComponents_append_of_spells (h : Spells cs s n) (next : AtNumber rest)
    (fits : total + n < wide) (b : Build) :
    sumComponents b total (s ++ rest) = sumComponents b (total + n) rest := by
  induction h generalizing total with
  | last h => exact sumComponents_append h next fits b
  | @cons c cs s t n m h others ih =>
    have behind : AtNumber (t ++ rest) := by
      obtain ⟨x, y, tail, rfl, starts⟩ := others.exists_cons
      simpa [AtNumber] using starts
    rw [List.append_assoc, sumComponents_append h behind (by omega), ih (by omega), Nat.add_assoc]

theorem sumComponents_of_spells (h : Spells cs s n) (fits : total + n < wide) (b : Build) :
    sumComponents b total s = .ok (total + n) := by
  have turn := sumComponents_append_of_spells h atNumber_nil fits b
  rwa [List.append_nil, sumComponents_nil] at turn

theorem sumComponents_append_of_leads (h : Leads s n) (next : AtNumber rest)
    (fits : total + n < wide) (b : Build) :
    sumComponents b total (s ++ rest) = sumComponents b (total + n) rest := by
  cases h with
  | nil => rfl
  | sum spells => exact sumComponents_append_of_spells spells next fits b

theorem spells_of_nanos (h : (splitComponent s).1.nanos .checked = .ok n) :
    ∃ text, s = text ++ (splitComponent s).2 ∧ (splitComponent s).1.Spells text n ∧ n < wide := by
  rcases splitComponent_cases s with ⟨fault, -, same⟩ | ⟨text, m, parts, spells, fits⟩
  · cases h.symm.trans (same .checked)
  · by_cases within : m < wide
    · cases h.symm.trans (nanos_of_spells spells within .checked)
      exact ⟨text, parts, spells, within⟩
    · cases h.symm.trans (nanos_of_wide spells fits (Nat.le_of_not_lt within))

/-- How the addition of a text ends: every build refuses it for one reason, or every build adds up
all its components, or a checked build stops at one of them. -/
inductive Sums (total : Nat) (s : List Char) : Prop
  | told {fault : Fault} : fault ≠ .overflow → (∀ b, sumComponents b total s = .error fault) →
      Sums total s
  | summed {sum : Nat} : Leads s sum → total + sum < wide →
      (∀ b, sumComponents b total s = .ok (total + sum)) → Sums total s
  | stopped {front text rest : List Char} {sum n : Nat} {c : Component} :
      s = front ++ (text ++ rest) → Leads front sum → total + sum < wide → c.Spells text n →
      AtNumber rest → c.WholeFits → wide ≤ n →
      sumComponents .checked total s = .error .overflow → Sums total s

theorem Leads.cons (h : c.Spells s n) (others : Leads t m) (fits : n + m < wide) :
    Leads (s ++ t) (n + m) := by
  cases others with
  | nil =>
    rw [List.append_nil]
    exact .sum (.last h) fits
  | sum spells => exact .sum (.cons h spells) fits

/-- The induction is along the turns of a checked build: `splitComponent_cases` says what one turn
does, and the turns before it have added up what leads to it. -/
theorem sums (small : total < wide) (s : List Char) : Sums total s := by
  induction total, s using sumComponents.induct Build.checked with
  | case1 total => exact .summed .nil small fun b => sumComponents_nil b total
  | case2 total s some fault refused =>
    rcases splitComponent_cases s with ⟨fault', told, same⟩ | ⟨text, n, parts, spells, fits⟩
    · exact .told told fun b => sumComponents_of_error some (same b)
    · by_cases within : n < wide
      · cases refused.symm.trans (nanos_of_spells spells within .checked)
      · have beyond := Nat.le_of_not_lt within
        exact .stopped parts .nil small spells (atNumber_splitComponent s) fits beyond
          (sumComponents_of_error some (nanos_of_wide spells fits beyond))
  | case3 total s some n read large =>
    obtain ⟨text, parts, spells, within⟩ := spells_of_nanos read
    have other : Fault.outOfRange ≠ .overflow := by simp
    refine .told other fun b => ?_
    rw [sumComponents_of_ok some (nanos_of_spells spells within b), if_pos large]
  | case4 total s some n read large ih =>
    obtain ⟨text, parts, spells, within⟩ := spells_of_nanos read
    have turn (b : Build) : sumComponents b total s =
        sumComponents b (total + n) (splitComponent s).2 := by
      rw [sumComponents_of_ok some (nanos_of_spells spells within b), if_neg large]
    have next := Nat.lt_of_not_le large
    cases ih next with
    | told other same => exact .told other fun b => (turn b).trans (same b)
    | summed leads fits same =>
      have joined := leads.cons spells (by omega)
      rw [← parts] at joined
      exact .summed joined (by omega) fun b => by rw [turn b, same b, Nat.add_assoc]
    | @stopped front text' rest sum m c parts' leads fits spells' behind whole beyond stops =>
      have joined := leads.cons spells (by omega)
      rw [parts', ← List.append_assoc] at parts
      exact .stopped parts joined (by omega) spells' behind whole beyond
        ((turn .checked).trans stops)

theorem splitSign_of_isSign {sign : List Char} {minus : Bool} (h : IsSign sign minus)
    (next : AtNumber rest) : splitSign (sign ++ rest) = (minus, rest) := by
  cases h with
  | none =>
    cases rest with
    | nil => rfl
    | cons x tail =>
      have starts : startsNumber x = true := next x rfl
      unfold splitSign
      split
      · rename_i same
        cases same
        exact absurd starts (by decide)
      · rename_i same
        cases same
        exact absurd starts (by decide)
      · rfl
  | plus => rfl
  | minus => rfl

theorem isSign_splitSign (s : List Char) :
    ∃ sign, IsSign sign (splitSign s).1 ∧ s = sign ++ (splitSign s).2 := by
  unfold splitSign
  split
  · exact ⟨['-'], .minus, rfl⟩
  · exact ⟨['+'], .plus, rfl⟩
  · exact ⟨[], .none, rfl⟩

theorem readMagnitude_of_error {b : Build} {fault : Fault} (long : s ≠ ['0']) (some : s ≠ [])
    (h : sumComponents b 0 s = .error fault) : readMagnitude b s = .error fault := by
  rw [readMagnitude, if_neg long, if_neg some, h]

theorem readMagnitude_of_ok {b : Build} (long : s ≠ ['0']) (some : s ≠ [])
    (h : sumComponents b 0 s = .ok total) :
    readMagnitude b s = if Word.size 64 ≤ total then .error .outOfRange else .ok ⟨total⟩ := by
  rw [readMagnitude, if_neg long, if_neg some, h]

theorem readMagnitude_of_spells (h : Spells cs s total) (bound : total ≤ Word.size 64 - 1)
    (b : Build) : readMagnitude b s = .ok ⟨total⟩ := by
  obtain ⟨x, y, tail, some, -⟩ := h.exists_cons
  have narrow : Word.size 64 < wide := by decide
  have size := Word.size_pos 64
  have sum : sumComponents b 0 s = .ok (0 + total) := sumComponents_of_spells h (by omega) b
  rw [Nat.zero_add] at sum
  rw [readMagnitude_of_ok (by simp [some]) (by simp [some]) sum]
  exact if_neg (by omega)

theorem nanos_le_of_readMagnitude {d : Span} {b : Build} (h : readMagnitude b s = .ok d) :
    d.nanos ≤ Word.size 64 - 1 := by
  unfold readMagnitude at h
  split at h
  · cases h
    exact Nat.zero_le _
  · split at h
    · cases h
    · split at h
      · cases h
      · split at h
        · cases h
        · cases h
          exact Nat.le_sub_one_of_lt (Nat.lt_of_not_le ‹_›)

theorem nanos_le_of_read {d : Span} (h : read s = .ok (.positive d)) :
    d.nanos ≤ Word.size 64 - 1 := by
  unfold read readIn at h
  split at h
  · cases h
  · rename_i m magnitude
    have bound := nanos_le_of_readMagnitude magnitude
    split at h <;> cases h
    exact bound

theorem readIn_of_means {d : Signed} (h : Means s d) (b : Build) : readIn b s = .ok d := by
  cases h with
  | @zero sign minus isSign =>
    rw [readIn, splitSign_of_isSign isSign (by simp [AtNumber, startsNumber, Text.isDigit])]
    cases minus <;> rfl
  | @sum sign body minus cs total isSign spells bound =>
    rw [readIn, splitSign_of_isSign isSign spells.atNumber, readMagnitude_of_spells spells bound]
    simp

theorem read_of_means {d : Signed} (h : Means s d) : read s = .ok d :=
  readIn_of_means h .unchecked

theorem readIn_of_overflows (h : Overflows s) : readIn .checked s = .error .overflow := by
  obtain ⟨isSign, leads, spells, behind, fits, beyond⟩ := h
  rename_i sign front text rest minus sum n c
  have small := leads.sum_lt
  obtain ⟨x, y, tail, rfl, starts⟩ := spells.exists_cons
  have split := splitComponent_of_spells spells behind
  have stops : sumComponents .checked sum (x :: y :: tail ++ rest) = .error .overflow :=
    sumComponents_of_error (by simp) (by rw [split]; exact nanos_of_wide spells fits beyond)
  have sums : sumComponents .checked 0 (front ++ (x :: y :: tail ++ rest)) = .error .overflow := by
    rw [sumComponents_append_of_leads leads (by simpa [AtNumber] using starts) (by omega),
      Nat.zero_add, stops]
  have starts' : AtNumber (front ++ (x :: y :: tail ++ rest)) :=
    leads.atNumber_append (by simpa [AtNumber] using starts)
  have long : front ++ (x :: y :: tail ++ rest) ≠ ['0'] := by
    intro short
    have length := congrArg List.length short
    simp only [List.length_append, List.length_cons, List.length_nil] at length
    omega
  rw [readIn, splitSign_of_isSign isSign starts', readMagnitude_of_error long (by simp) sums]

/-- How a text is read: every build refuses it for one reason that it tells, or every build reads
what it means, or a checked build stops. -/
inductive Reading (s : List Char) : Prop
  | told {fault : Fault} : fault ≠ .overflow → (∀ b, readIn b s = .error fault) → Reading s
  | read {d : Signed} : Means s d → (∀ b, readIn b s = .ok d) → Reading s
  | stopped : Overflows s → readIn .checked s = .error .overflow → Reading s

theorem Leads.means {sign : List Char} {minus : Bool} (h : Leads s n) (some : s ≠ [])
    (isSign : IsSign sign minus) (bound : n ≤ Word.size 64 - 1) :
    Means (sign ++ s) (if minus = true ∧ n ≠ 0 then .negative ⟨n⟩ else .positive ⟨n⟩) := by
  cases h with
  | nil => exact absurd rfl some
  | sum spells => exact .sum isSign spells bound

theorem reading (s : List Char) : Reading s := by
  obtain ⟨sign, isSign, parts⟩ := isSign_splitSign s
  -- a fault of the magnitude is one of the whole text
  have told {fault : Fault} (other : fault ≠ .overflow)
      (h : ∀ b, readMagnitude b (splitSign s).2 = .error fault) : Reading s :=
    .told other fun b => by rw [readIn, h b]
  by_cases zero : (splitSign s).2 = ['0']
  · have means := Means.zero isSign
    rw [← zero, ← parts] at means
    exact .read means (readIn_of_means means)
  · by_cases empty : (splitSign s).2 = []
    · have other : Fault.empty ≠ .overflow := by simp
      exact told other fun b => by rw [readMagnitude, if_neg zero, if_pos empty]
    · cases sums wide_pos (splitSign s).2 with
      | told other same => exact told other fun b => readMagnitude_of_error zero empty (same b)
      | @summed sum leads fits same =>
        rw [Nat.zero_add] at same
        by_cases large : Word.size 64 ≤ sum
        · have other : Fault.outOfRange ≠ .overflow := by simp
          refine told other fun b => ?_
          rw [readMagnitude_of_ok zero empty (same b), if_pos large]
        · have means := leads.means empty isSign (by omega)
          rw [← parts] at means
          exact .read means (readIn_of_means means)
      | stopped parts' leads fits spells behind whole beyond stops =>
        rw [parts'] at parts
        have overflows := Overflows.intro isSign leads spells behind whole beyond
        rw [← parts] at overflows
        exact .stopped overflows (readIn_of_overflows overflows)

theorem readIn_checked_eq_overflow_iff :
    readIn .checked s = .error .overflow ↔ Overflows s := by
  refine ⟨fun stops => ?_, readIn_of_overflows⟩
  cases reading s with
  | told other same => cases stops.symm.trans (same .checked); exact absurd rfl other
  | read means same => cases stops.symm.trans (same .checked)
  | stopped overflows => exact overflows

theorem readIn_checked_eq_ok_iff {d : Signed} : readIn .checked s = .ok d ↔ Means s d := by
  refine ⟨fun accepts => ?_, fun means => readIn_of_means means .checked⟩
  cases reading s with
  | told other same => cases accepts.symm.trans (same .checked)
  | read means same => cases accepts.symm.trans (same .checked); exact means
  | stopped overflows stops => cases accepts.symm.trans stops

theorem readIn_eq_of_not_overflows (contained : ¬ Overflows s) (b : Build) :
    readIn b s = readIn .checked s := by
  cases reading s with
  | told other same => exact (same b).trans (same .checked).symm
  | read means same => exact (same b).trans (same .checked).symm
  | stopped overflows => exact absurd overflows contained

theorem not_overflows_of_means {d : Signed} (h : Means s d) : ¬ Overflows s := by
  intro overflows
  cases (readIn_of_means h .checked).symm.trans (readIn_of_overflows overflows)

/-- Unless an addition leaves the wide words, a reader accepts exactly the texts that have a
meaning, and reads what they mean; every other text is refused with a fault that is told. A text has
a meaning if it is an optional sign and then a bare zero or components whose sum fits into 64 bits,
and it means the sum, taken down only under a minus and when it is not zero. -/
theorem read_iff_means (contained : ¬ Overflows s) (b : Build) :
    (∀ d, readIn b s = .ok d ↔ Means s d) ∧
      ((∃ fault, fault ≠ .overflow ∧ readIn b s = .error fault) ↔ ∀ d, ¬ Means s d) := by
  rw [readIn_eq_of_not_overflows contained b]
  refine ⟨fun d => readIn_checked_eq_ok_iff, ?_, fun meaningless => ?_⟩
  · rintro ⟨fault, -, refused⟩ d means
    cases refused.symm.trans (readIn_of_means means .checked)
  · cases reading s with
    | told other same => exact ⟨_, other, same .checked⟩
    | read means => exact absurd means (meaningless _)
    | stopped overflows => exact absurd overflows contained

/-- A text whose first component is out of range is refused, whatever follows. -/
theorem told_of_unfit (h : c.Spells s n) (next : AtNumber rest) (unfit : ¬ c.WholeFits) :
    ∃ fault, fault ≠ .overflow ∧ ∀ b, readIn b (s ++ rest) = .error fault := by
  obtain ⟨x, y, tail, some, starts⟩ := h.exists_cons
  have unsigned : splitSign (s ++ rest) = (false, s ++ rest) :=
    splitSign_of_isSign .none (by simpa [AtNumber, some] using starts)
  rcases nanos_cases c with ⟨fault, other, same⟩ | ⟨-, fits, -⟩
  · refine ⟨fault, other, fun b => ?_⟩
    have nanos : (splitComponent (s ++ rest)).1.nanos b = .error fault := by
      rw [splitComponent_of_spells h next, same]
    have sum : sumComponents b 0 (s ++ rest) = .error fault :=
      sumComponents_of_error (by simp [some]) nanos
    have magnitude := readMagnitude_of_error (by simp [some]) (by simp [some]) sum
    rw [readIn, unsigned, magnitude]
  · exact absurd fits unfit

/-- The most whole microseconds that fit into a wide word, and a fraction behind them. -/
def brimful : Component :=
  ⟨['3', '4', '0', '2', '8', '2', '3', '6', '6', '9', '2', '0', '9', '3', '8', '4', '6', '3', '4',
    '6', '3', '3', '7', '4', '6', '0', '7', '4', '3', '1', '7', '6', '8', '2', '1', '1'],
    ['9', '9', '9'], ['u', 's']⟩

def Component.written (c : Component) : List Char := c.whole ++ '.' :: c.fraction ++ c.unit

theorem spells_brimful : brimful.Spells brimful.written (wide + 543) :=
  .intro (.pointed (by decide) (by decide) (by decide)) .micro

theorem wholeFits_brimful : brimful.WholeFits := by
  intro scale isUnit
  obtain rfl := isUnit.scale_unique .micro
  decide

theorem overflows_brimful : Overflows brimful.written := by
  have overflows := Overflows.intro .none .nil spells_brimful atNumber_nil wholeFits_brimful
    (by decide)
  simpa using overflows

def eternity : Component := ⟨List.replicate 26 '9', [], ['h']⟩

/-- A minus, two components, a fraction without whole units and one of the two micro signs; and a
text that is refused at its first component and of which the second one would overflow. -/
theorem read_iff_means_compound :
    ¬ Overflows ['-', '1', 'h', '.', '5', '\u00b5', 's'] ∧
      readIn .checked ['-', '1', 'h', '.', '5', '\u00b5', 's'] =
        .ok (.negative ⟨3600000000500⟩) ∧
      Overflows brimful.written ∧ ¬ Overflows (eternity.written ++ brimful.written) ∧
      ∀ d, ¬ Means (eternity.written ++ brimful.written) d := by
  have hour : Component.Spells ⟨['1'], [], ['h']⟩ ['1', 'h'] 3600000000000 :=
    .intro (.whole (by decide) (by decide)) .hour
  have half : Component.Spells ⟨[], ['5'], ['\u00b5', 's']⟩ ['.', '5', '\u00b5', 's'] 500 :=
    .intro (.fraction (by decide) (by decide)) .microSign
  have means : Means ['-', '1', 'h', '.', '5', '\u00b5', 's'] (.negative ⟨3600000000500⟩) :=
    .sum .minus (.cons hour (.last half)) (by decide)
  have contained := not_overflows_of_means means
  have spells : eternity.Spells eternity.written (99999999999999999999999999 * 3600000000000) :=
    .intro (.pointed (by decide) (by decide) (by decide)) .hour
  have unfit : ¬ eternity.WholeFits := fun fits => absurd (fits _ .hour) (by decide)
  obtain ⟨fault, other, refused⟩ := told_of_unfit spells spells_brimful.atNumber unfit
  have unreached : ¬ Overflows (eternity.written ++ brimful.written) := fun overflows =>
    other (Except.error.inj ((refused .checked).symm.trans (readIn_of_overflows overflows)))
  exact ⟨contained, ((read_iff_means contained .checked).1 _).2 means, overflows_brimful, unreached,
    (read_iff_means unreached .unchecked).2.1 ⟨fault, other, refused .unchecked⟩⟩

end WarmupGate.Span
