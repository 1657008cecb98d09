import Mathlib.Data.List.TakeWhile
import WarmupGate.Json.Record
import WarmupGate.Proofs.Json.Telling
import WarmupGate.Text.Integer

/-!
# What a library for the format promises

A reader of a library reads what a text tells, and takes a value to its end or not at all. For a
record it goes through the members of an object one after the other: it skips those that the record
does not know, has the others read, and refuses one that is there already. What a record makes of
this is left to its members and to how it is finished. That is all that is asked of a library, and
the one that scans texts keeps it.
-/
namespace WarmupGate.Json

variable {g s rest r body : List Char} {c : Char}

/-- What a library promises. -/
structure Library.Lawful (lib : Library) : Prop where
  string : ∀ {value : String} {g body rest : List Char}, Spells value.toList body → Gap g →
    lib.string (g ++ (quoted body ++ rest)) = .ok (value, rest)
  bool : ∀ {value : Bool} {g s rest : List Char}, Tells (.bool value) s → Gap g →
    lib.bool (g ++ (s ++ rest)) = .ok (value, rest)
  natural : ∀ {n limit : Nat} {g rest : List Char}, n < limit → limit ≤ Word.size 64 → Gap g →
    Apart rest → lib.natural limit (g ++ (Text.numeral n ++ rest)) = .ok (n, rest)
  null : ∀ {α : Type} {read : Reader α} {g rest : List Char}, Gap g →
    lib.option read (g ++ (['n', 'u', 'l', 'l'] ++ rest)) = .ok (none, rest)
  given : ∀ {α : Type} {read : Reader α} {g s : List Char} {c : Char}, Gap g → isGap c = false →
    c ≠ 'n' → lib.option read (g ++ c :: s) = (read (c :: s)).map fun p => (some p.1, p.2)
  /-- An object is read as a record exactly if the names of its members are texts, if the members
  can be taken one after the other, and if they make a record in the end. -/
  record : ∀ {δ α : Type} {members : List (Member δ)} {blank : δ} {finish : δ → Option α}
    {slots : List Slot} {g s rest r : List Char} {a : α}, Json.Lawful members →
    HasSlots slots s → Gap g →
    (lib.record members blank finish (g ++ (s ++ rest)) = .ok (a, r) ↔
      r = rest ∧ ∃ es d, es.map Entry.toSlot = slots ∧ TakesAll members rest es blank d ∧
        finish d = some a)
  confined_string : Confined lib.string
  confined_bool : Confined lib.bool
  confined_natural : ∀ limit, Confined (lib.natural limit)
  confined_record : ∀ {δ α : Type} {members : List (Member δ)} {blank : δ}
    {finish : δ → Option α}, Json.Lawful members → Confined (lib.record members blank finish)
  whole : ∀ {α : Type} {read : Reader α} {s : List Char} {a : α},
    lib.whole read s = .ok a ↔ ∃ rest, read s = .ok (a, rest) ∧ Gap rest
  text : ∀ {v : Json}, Writable v → Tells v (lib.text v).toList

theorem skipGap_eq_nil_iff : skipGap s = [] ↔ Gap s := by
  simp [skipGap, Gap, List.dropWhile_eq_nil_iff, isGap_eq_true_iff]

theorem readAll_eq_ok_iff {α : Type} {read : Reader α} {a : α} :
    readAll read s = .ok a ↔ ∃ rest, read s = .ok (a, rest) ∧ Gap rest := by
  unfold readAll
  cases read s with
  | error f => simp
  | ok p => by_cases gap : skipGap p.2 = [] <;> simp [gap, ← skipGap_eq_nil_iff, Prod.ext_iff]

namespace Library

theorem lawful_scanning : scanning.Lawful where
  string spells gap := readString_of_tells (.string spells) gap _
  bool tells gap := readBool_of_tells tells gap _
  natural {n limit g rest} small limited gap apart := by
    have tells : Tells (.int n) (Text.numeral n) := pointNumeral_natCast n ▸ .number
    exact readNat_of_tells tells small (Nat.le_trans limited (by decide)) gap apart
  null gap := readOption_null gap _
  given gap stop other := readOption_of_ne _ stop other gap _
  record lawful object gap := readRecord_eq_ok_iff lawful object gap
  confined_string := confined_readString
  confined_bool := confined_readBool
  confined_natural := confined_readNat
  confined_record lawful := confined_readRecord lawful
  whole := readAll_eq_ok_iff
  text {v} writable := by
    show Tells v (String.ofList v.chars).toList
    rw [String.toList_ofList]
    exact writable.written.tells

namespace Lawful

variable {lib : Library} (lawful : lib.Lawful)

include lawful

theorem string_of_tells {value : String} (tells : Tells (.string value) s) (gap : Gap g)
    (rest : List Char) : lib.string (g ++ (s ++ rest)) = .ok (value, rest) := by
  cases tells with
  | string spells => exact lawful.string spells gap

theorem natural_of_tells {n limit : Nat} (tells : Tells (.int n) s) (small : n < limit)
    (limited : limit ≤ Word.size 64) (gap : Gap g) (apart : Apart rest) :
    lib.natural limit (g ++ (s ++ rest)) = .ok (n, rest) := by
  have text : s = Text.numeral n := by
    cases tells
    exact pointNumeral_natCast n
  rw [text]
  exact lawful.natural small limited gap apart

theorem confined_option {α : Type} {read : Reader α} (confined : Confined read) :
    Confined (lib.option read) := by
  refine ⟨fun {s g rest r a} isValue gap apart h => ?_⟩
  by_cases null : s = ['n', 'u', 'l', 'l']
  · rw [null, lawful.null gap] at h
    exact (Prod.mk.inj (Except.ok.inj h)).2.symm
  · obtain ⟨c, t, rfl, headed⟩ := isValue.exists_headed
    have other : c ≠ 'n' := by
      rintro rfl
      cases headed with
      | number first => exact absurd first (by decide)
      | null => exact null rfl
    rw [List.cons_append, lawful.given gap headed.stop.1 other] at h
    exact (confined.map Option.some).rest_eq isValue gap_nil apart h

section

variable {δ α : Type} {members : List (Member δ)} {blank : δ} {finish : δ → Option α} {a : α}
  {entries : List Entry}

theorem record_of_tells {json : List (String × Json)} {Holds : δ → Prop}
    (obeyed : Json.Lawful members) (reading : Reads members json Holds) (holds : Holds blank)
    (blanks : ∀ m ∈ members, m.filled blank = false)
    (made : ∀ d, Holds d → (∀ m ∈ members, m.filled d = true ∨ (m.name, .null) ∈ json) →
      finish d = .some a)
    (tells : Tells (.object json) s) (gap : Gap g) (rest : List Char) :
    lib.record members blank finish (g ++ (s ++ rest)) = .ok (a, rest) := by
  cases tells with
  | @object _ entries _ object once present tells =>
    have onces : ∀ m ∈ members, (entries.map Entry.name).count m.name ≤ 1 := by
      intro m member
      obtain ⟨v, value⟩ := reading.named m member
      exact once _ value
    obtain ⟨d, takes, holds⟩ := exists_takesAll obeyed reading tells onces
      (fun m member _ => blanks m member) holds rest
    refine (lawful.record obeyed object.hasSlots gap).2 ⟨rfl, entries, d, rfl, takes, ?_⟩
    refine made d holds fun m member => ?_
    -- what is not there in the end was null
    obtain ⟨v, value⟩ := reading.named m member
    by_cases there : m.name ∈ entries.map Entry.name
    · left
      rw [takes.filled obeyed member, List.contains_iff_mem.2 there, Bool.or_true]
    · right
      have null : v = .null := present _ value there
      rwa [null] at value

theorem record_ne_ok_of_broken {required known : List String} {slots : List Slot}
    (obeyed : Json.Lawful members) (blanks : ∀ m ∈ members, m.filled blank = false)
    (knows : ∀ name ∈ known, ∃ m ∈ members, m.name = name)
    (needs : ∀ d a, finish d = .some a → ∀ name ∈ required,
      ∃ m ∈ members, m.name = name ∧ m.filled d = true)
    (object : HasSlots slots s) (broken : Broken required known slots) (gap : Gap g) :
    lib.record members blank finish (g ++ (s ++ rest)) ≠ .ok (a, r) := by
  intro h
  obtain ⟨-, es, d, same, takes, made⟩ := (lawful.record obeyed object gap).1 h
  cases broken with
  | unnamed there unspelled =>
    rw [← same] at there
    obtain ⟨e, -, rfl⟩ := List.mem_map.1 there
    exact unspelled _ e.spelled
  | flawed named flawed =>
    obtain rfl := (List.map_inj_right fun _ _ => Entry.eq_of_toSlot_eq).1 (same.trans named.symm)
    cases flawed with
    | missing asked missing =>
      obtain ⟨m, member, rfl, filled⟩ := needs d a made _ asked
      rw [takes.filled obeyed member, blanks m member, Bool.false_or,
        List.contains_iff_mem] at filled
      exact missing filled
    | doubled asked twice =>
      obtain ⟨m, member, rfl⟩ := knows _ asked
      exact absurd (takes.count_le_one obeyed member) (Nat.not_le.2 twice)

end

end Lawful
end Library
end WarmupGate.Json
