import WarmupGate.Json.Printer
import WarmupGate.Proofs.Json.Record
import WarmupGate.Proofs.Text.Numeral

/-!
# Reading what is told

A text that tells a value is read as this value, whatever the order of members and the spelling of
strings, and the compact text of a value tells it. A reader of records has to say what its members
hold; then it reads every text that tells an object with these members.
-/
namespace WarmupGate.Json

variable {g s rest cs body : List Char} {c : Char}

theorem readString_of_tells {value : String} (tells : Tells (.string value) s) (gap : Gap g)
    (rest : List Char) : readString (g ++ (s ++ rest)) = .ok (value, rest) := by
  cases tells with
  | @string _ body spells =>
    have text : quoted body ++ rest = '"' :: (body ++ '"' :: rest) := by
      simp [quoted]
    rw [text, readString, skipGap_append_cons gap (by decide)]
    simp only [scanString_append spells, Except.map, String.ofList_toList]

theorem readBool_of_tells {value : Bool} (tells : Tells (.bool value) s) (gap : Gap g)
    (rest : List Char) : readBool (g ++ (s ++ rest)) = .ok (value, rest) := by
  cases tells <;> rw [List.cons_append, readBool, skipGap_append_cons gap (by decide)] <;> rfl

theorem pointNumeral_natCast (n : Nat) : Text.pointNumeral n 0 = Text.numeral n := by
  simp [Text.pointNumeral]

theorem not_excessive {n : Numeral} (plain : n.plain = true) (short : n.whole.length ≤ 20) :
    n.excessive = false := by
  obtain ⟨fraction, exponent⟩ : n.fraction = [] ∧ n.exponent = [] := by
    simpa [Numeral.plain] using plain
  have few : n.significant.length ≤ n.whole.length := by
    rw [Numeral.significant, fraction, List.append_nil]
    exact (List.dropWhile_suffix _).length_le
  have magnitude : n.magnitude ≤ 20 := by
    have none : Text.digitsValue [] = 0 := rfl
    simp only [Numeral.magnitude, fraction, exponent, none, List.length_nil]
    split <;> omega
  have below : ¬ 309 < n.magnitude := by omega
  have other : n.magnitude ≠ 309 := by omega
  simp [Numeral.excessive, below, other]

theorem readNat_of_tells {n limit : Nat} (tells : Tells (.int n) s) (small : n < limit)
    (limited : limit ≤ Text.tenPower 20) (gap : Gap g) (apart : Apart rest) :
    readNat limit (g ++ (s ++ rest)) = .ok (n, rest) := by
  have text : s = Text.numeral n := by
    cases tells
    exact pointNumeral_natCast n
  subst text
  have numeral := Text.isNumeral_numeral n
  have scanned := scanNumeral_numeral numeral apart
  have short : (Text.numeral n).length ≤ 20 :=
    Text.length_numeral_le (by decide) (Nat.lt_of_lt_of_le small limited)
  obtain ⟨d, others, start⟩ := List.exists_cons_of_ne_nil numeral.some
  have digit : Text.isDigit d = true := numeral.digits d (start ▸ List.mem_cons_self)
  rw [start, List.cons_append] at scanned ⊢
  rw [readNat, skipGap_append_cons gap (isGap_of_number (.inr digit))]
  have modest := @not_excessive { negative := false, whole := Text.numeral n } rfl short
  simp only [if_pos (Or.inr digit : d = '-' ∨ _), scanned, ← start, modest,
    Numeral.plain, Text.digitsValue_numeral]
  simp [small]

theorem readOption_null {α : Type} {read : Reader α} (gap : Gap g) (rest : List Char) :
    readOption read (g ++ (['n', 'u', 'l', 'l'] ++ rest)) = .ok (none, rest) := by
  rw [List.cons_append, readOption, skipGap_append_cons gap (by decide)]
  rfl

theorem readOption_of_ne {α : Type} (read : Reader α) (stop : isGap c = false) (some : c ≠ 'n')
    (gap : Gap g) (s : List Char) :
    readOption read (g ++ c :: s) = (read (c :: s)).map fun p => (.some p.1, p.2) := by
  rw [readOption, skipGap_append_cons gap stop]
  split
  · rename_i same
    exact absurd (List.cons.inj same).1 some
  · rfl

section

variable {δ : Type} {members : List (Member δ)} {json : List (String × Json)} {Holds : δ → Prop}
  {e : Entry} {entries : List Entry} {d : δ}

/-- The members of a record read what is told of an object into drafts that hold it so far. -/
structure Reads (members : List (Member δ)) (json : List (String × Json)) (Holds : δ → Prop) :
    Prop where
  named : ∀ m ∈ members, ∃ v, (m.name, v) ∈ json
  reads : ∀ m ∈ members, ∀ v, (m.name, v) ∈ json → ∀ d, Holds d → ∀ {g s rest : List Char},
    Gap g → Tells v s → Apart rest → ∃ d', m.read d (g ++ (s ++ rest)) = .ok (d', rest) ∧ Holds d'

/-- A member that is told and not there yet can be taken, and so can an unknown one. -/
theorem exists_takes (reading : Reads members json Holds)
    (tells : ∀ v, (e.name, v) ∈ json → Tells v e.value.text)
    (unfilled : ∀ m ∈ members, m.name = e.name → m.filled d = false) (holds : Holds d)
    (apart : Apart rest) : ∃ d', Takes members rest e d d' ∧ Holds d' := by
  by_cases known : ∃ m ∈ members, m.name = e.name
  · obtain ⟨m, member, name⟩ := known
    obtain ⟨v, value⟩ := reading.named m member
    obtain ⟨d', read, holds'⟩ := reading.reads m member v value d holds e.value.gap_before
      (tells v (name ▸ value)) apart
    exact ⟨d', .known member name (unfilled m member name) read, holds'⟩
  · refine ⟨d, .unknown fun m member name => known ⟨m, member, name⟩, holds⟩

theorem exists_takesAll (lawful : Lawful members) (reading : Reads members json Holds)
    (tells : ∀ e ∈ entries, ∀ v, (e.name, v) ∈ json → Tells v e.value.text)
    (once : ∀ m ∈ members, (entries.map Entry.name).count m.name ≤ 1)
    (unfilled : ∀ m ∈ members, m.name ∈ entries.map Entry.name → m.filled d = false)
    (holds : Holds d) (rest : List Char) :
    ∃ d', TakesAll members rest entries d d' ∧ Holds d' := by
  induction entries generalizing d with
  | nil => exact ⟨d, .nil, holds⟩
  | cons e entries ih =>
    obtain ⟨told, tolds⟩ := List.forall_mem_cons.1 tells
    obtain ⟨d₁, takes, holds₁⟩ := exists_takes reading told
      (fun m member name => unfilled m member (by simp [name])) holds
      (e.apart_following entries rest)
    -- a known name occurs once, so what was just read does not come again
    have fresh : ∀ m ∈ members, m.name ∈ entries.map Entry.name → m.filled d₁ = false := by
      intro m member later
      have other : m.name ≠ e.name := by
        intro name
        have twice := once m member
        rw [List.map_cons, name, List.count_cons_self, ← name] at twice
        exact absurd (List.count_pos_iff.2 later) (by omega)
      rw [takes.filled lawful member, unfilled m member (List.mem_cons_of_mem _ later)]
      simpa using other
    have onces : ∀ m ∈ members, (entries.map Entry.name).count m.name ≤ 1 := by
      intro m member
      exact Nat.le_trans List.count_le_count_cons (once m member)
    obtain ⟨d', others, holds'⟩ := ih tolds onces fresh holds₁
    exact ⟨d', .cons takes others, holds'⟩

end

theorem hexWord_control : ∀ n < 0x20, HexWord (Text.fillZeros 4 (Text.hexNumeral n)) n := by
  decide

theorem Spells.escapeChar (c : Char) (spells : Spells cs body) :
    Spells (c :: cs) (escapeChar c ++ body) := by
  unfold Json.escapeChar
  split
  any_goals exact .escaped (.short (by decide)) spells
  rename_i quote slash _ _ _ _ _
  by_cases control : c.toNat < 0x20
  · rw [if_pos control]
    have coded : Coded c (Text.fillZeros 4 (Text.hexNumeral c.toNat)) := by
      have whole := Coded.whole (hexWord_control c.toNat control) (by omega)
      rwa [Char.ofNat_toNat] at whole
    exact .escaped (.code coded) spells
  · rw [if_neg control]
    exact .plain ⟨Nat.not_lt.1 control, quote, slash⟩ spells

theorem spells_flatMap_escapeChar (cs : List Char) : Spells cs (cs.flatMap escapeChar) := by
  induction cs with
  | nil => exact .nil
  | cons c cs ih =>
    rw [List.flatMap_cons]
    exact ih.escapeChar c

/-- The compact text of a value is one, and tells it. -/
structure Written (v : Json) : Prop where
  isValue : IsValue v.chars
  tells : Tells v v.chars

/-- Values with plain whole numbers, and with objects that have no name twice. -/
inductive Writable : Json → Prop
  | null : Writable .null
  | bool (b : Bool) : Writable (.bool b)
  | nat (n : Nat) : Writable (.int n)
  | string (value : String) : Writable (.string value)
  | object {ms : List (String × Json)} : (ms.map Prod.fst).Nodup → (∀ m ∈ ms, Writable m.2) →
      Writable (.object ms)

theorem written_null : Written .null := ⟨.null, .null⟩

theorem written_bool (b : Bool) : Written (.bool b) := by
  cases b
  · exact ⟨.isFalse, .isFalse⟩
  · exact ⟨.isTrue, .isTrue⟩

theorem written_nat (n : Nat) : Written (.int n) := by
  refine ⟨?_, .number⟩
  have isNumber := IsNumber.mk (.inl rfl) (Text.isNumeral_numeral n) .none .none
  rw [List.nil_append, List.append_nil, List.append_nil] at isNumber
  rw [int, chars, pointNumeral_natCast]
  exact .number isNumber

theorem written_string (value : String) : Written (.string value) := by
  have spells := spells_flatMap_escapeChar value.toList
  exact ⟨.string (isBody_of_spells spells), .string spells⟩

def entryOf (m : String × Json) : Entry :=
  { before := [], body := m.1.toList.flatMap escapeChar, between := []
    value := ⟨[], m.2.chars, [], gap_nil, gap_nil⟩
    gap_before := gap_nil, gap_between := gap_nil, name := m.1
    spelled := spells_flatMap_escapeChar m.1.toList }

theorem membersChars_eq (ms : List (String × Json)) :
    membersChars ms = closing '\x7d' (ms.map fun m => (entryOf m).chars) [] := by
  induction ms with
  | nil => rw [membersChars, List.map_nil, closing_nil]
  | cons m ms ih =>
    rw [membersChars, List.map_cons, closing_cons, ih]
    simp [entryOf, Slot.chars, Padded.chars, quoted, stringChars]

theorem enclosed_entryOf (ms : List (String × Json)) :
    Enclosed '\x7b' '\x7d' ((ms.map entryOf).map fun e => e.chars) (chars (.object ms)) := by
  rw [List.map_map]
  cases ms with
  | nil => exact .none gap_nil
  | cons m ms =>
    have text : chars (.object (m :: ms)) = '\x7b' :: ((entryOf m).chars ++
        closing '\x7d' (ms.map fun m => (entryOf m).chars) []) := by
      rw [chars, membersChars_eq]
      simp [entryOf, Slot.chars, Padded.chars, quoted, stringChars]
    rw [text]
    exact enclosed_closing _ _ _ _

theorem isObject_entryOf {ms : List (String × Json)} (written : ∀ m ∈ ms, Written m.2) :
    IsObject (ms.map entryOf) (chars (.object ms)) := by
  refine ⟨enclosed_entryOf ms, fun e there => ?_⟩
  obtain ⟨m, member, rfl⟩ := List.mem_map.1 there
  exact (written m member).isValue

theorem written_object {ms : List (String × Json)} (distinct : (ms.map Prod.fst).Nodup)
    (written : ∀ m ∈ ms, Written m.2) : Written (.object ms) := by
  have names : (ms.map entryOf).map Entry.name = ms.map Prod.fst := by
    rw [List.map_map]
    rfl
  have object := isObject_entryOf written
  refine ⟨object.hasSlots.isValue, .object object ?_ ?_ ?_⟩
  · intro m _
    rw [names]
    exact List.nodup_iff_count_le_one.1 distinct m.1
  · intro m member missing
    rw [names] at missing
    exact absurd (List.mem_map_of_mem member) missing
  · intro e there v member
    obtain ⟨m, member', rfl⟩ := List.mem_map.1 there
    have same := List.inj_on_of_nodup_map distinct member member' rfl
    rw [← same]
    exact (written _ member).tells

theorem Writable.written {v : Json} (writable : Writable v) : Written v := by
  induction writable with
  | null => exact written_null
  | bool b => exact written_bool b
  | nat n => exact written_nat n
  | string value => exact written_string value
  | object distinct _ ih => exact written_object distinct ih

end WarmupGate.Json
