import Mathlib.Data.List.Nodup
import WarmupGate.Json.Record
import WarmupGate.Proofs.Json.Values

/-!
# Reading the members of an object

The reader of a record takes the members of an object one after the other, each known one into the
draft and every other one past it. So a known member that is there twice is never accepted, and what
the draft has in the end are the members that were there. Members whose values are told are read.
What a fault is, and whether texts outside the format are refused, is not said here.
-/
namespace WarmupGate.Json

variable {g s t rest r : List Char} {c : Char}

/-- A value is read to its end or not at all. -/
structure Confined {α : Type} (read : Reader α) : Prop where
  rest_eq : ∀ {s g rest r : List Char} {a : α}, IsValue s → Gap g → Apart rest →
    read (g ++ (s ++ rest)) = .ok (a, r) → r = rest

theorem confined_readString : Confined readString := by
  refine ⟨fun {s g rest r a} isValue gap _ h => ?_⟩
  obtain ⟨c, t, rfl, headed⟩ := isValue.exists_headed
  rw [readString, List.cons_append, skipGap_append_cons gap headed.stop.1] at h
  split at h
  · rename_i same
    obtain ⟨rfl, rfl⟩ := List.cons.inj same
    cases headed with
    | number first => exact absurd first (by decide)
    | string isBody =>
      obtain ⟨⟨cs, behind⟩, scanned, last⟩ := map_eq_ok_iff.1 h
      rw [List.append_assoc, List.singleton_append] at scanned
      obtain ⟨rfl, -⟩ := spells_of_scanString_append isBody scanned
      exact (Prod.mk.inj last).2.symm
  · cases h

theorem confined_readBool : Confined readBool := by
  refine ⟨fun {s g rest r a} isValue gap _ h => ?_⟩
  obtain ⟨c, t, rfl, headed⟩ := isValue.exists_headed
  rw [readBool, List.cons_append, skipGap_append_cons gap headed.stop.1] at h
  split at h
  · rename_i same
    obtain ⟨rfl, rfl⟩ := List.cons.inj same
    cases headed with
    | number first => exact absurd first (by decide)
    | isTrue => exact (Prod.mk.inj (Except.ok.inj h)).2.symm
  · rename_i same
    obtain ⟨rfl, rfl⟩ := List.cons.inj same
    cases headed with
    | number first => exact absurd first (by decide)
    | isFalse => exact (Prod.mk.inj (Except.ok.inj h)).2.symm
  · cases h

theorem confined_readNat (limit : Nat) : Confined (readNat limit) := by
  refine ⟨fun {s g rest r a} isValue gap apart h => ?_⟩
  obtain ⟨c, t, rfl, headed⟩ := isValue.exists_headed
  rw [readNat, List.cons_append, skipGap_append_cons gap headed.stop.1] at h
  simp only at h
  by_cases first : c = '-' ∨ Text.isDigit c = true
  · rw [if_pos first] at h
    cases headed with
    | number _ isNumber =>
      obtain ⟨n, scanned⟩ := scanNumeral_append isNumber apart
      rw [List.cons_append] at scanned
      simp only [scanned] at h
      split at h
      · cases h
      · split at h
        · exact (Prod.mk.inj (Except.ok.inj h)).2.symm
        · cases h
    | _ => exact absurd first (by decide)
  · rw [if_neg first] at h
    cases h

theorem Confined.map {α β : Type} {read : Reader α} (confined : Confined read) (f : α → β) :
    Confined fun s => (read s).map fun p => (f p.1, p.2) := by
  refine ⟨fun {s g rest r a} isValue gap apart h => ?_⟩
  obtain ⟨⟨v, behind⟩, given, last⟩ := map_eq_ok_iff.1 h
  rw [confined.rest_eq isValue gap apart given] at last
  exact (Prod.mk.inj last).2.symm

theorem readName_first (gap : Gap g) (s : List Char) :
    readName true (g ++ '"' :: s) = (scanString s).map fun p => (some p.1, p.2) := by
  unfold readName
  simp only [skipGap_append_cons gap (by decide : isGap '"' = false), if_true]

theorem readName_later {g' : List Char} (gap : Gap g) (gap' : Gap g') (s : List Char) :
    readName false (g ++ ',' :: (g' ++ '"' :: s)) =
      (scanString s).map fun p => (some p.1, p.2) := by
  unfold readName
  simp only [skipGap_append_cons gap (by decide : isGap ',' = false),
    skipGap_append_cons gap' (by decide : isGap '"' = false), Bool.false_eq_true, if_false]

theorem readName_end (first : Bool) (gap : Gap g) (s : List Char) :
    readName first (g ++ '\x7d' :: s) = .ok (none, s) := by
  unfold readName
  simp only [skipGap_append_cons gap (by decide : isGap '\x7d' = false)]

/-- A text goes on with members and the end of their object. -/
def Continues (first : Bool) (s : List Char) (rest : List Char) : List Slot → Prop
  | [] => readName first s = .ok (none, rest)
  | m :: slots =>
    readName first s = (scanString (m.behind (closing '\x7d' (slots.map Slot.chars) rest))).map
      fun p => (some p.1, p.2)

theorem continues_closing (gap : Gap g) (slots : List Slot) (rest : List Char) :
    Continues false (g ++ closing '\x7d' (slots.map Slot.chars) rest) rest slots := by
  cases slots with
  | nil => exact readName_end false gap rest
  | cons m slots =>
    rw [List.map_cons, closing_cons, Slot.chars_append]
    exact readName_later gap m.gap_before _

theorem exists_continues {slots : List Slot}
    (enclosed : Enclosed '\x7b' '\x7d' (slots.map Slot.chars) s) :
    ∃ t, s = '\x7b' :: t ∧ ∀ rest, Continues true (t ++ rest) rest slots := by
  obtain ⟨none, inner, gap, rfl⟩ | ⟨p, ps, parts, rfl⟩ := enclosed.shape
  · obtain rfl := List.map_eq_nil_iff.1 none
    refine ⟨inner ++ ['\x7d'], rfl, fun rest => ?_⟩
    rw [List.append_assoc, List.singleton_append]
    exact readName_end true gap rest
  · obtain ⟨m, slots, rfl, rfl, rfl⟩ := List.map_eq_cons_iff.1 parts
    refine ⟨_, rfl, fun rest => ?_⟩
    rw [List.append_assoc, closing_append, List.nil_append, Slot.chars_append]
    exact readName_first m.gap_before _

/-- An entry is its member, since the member's name is spelled in it. -/
theorem Entry.eq_of_toSlot_eq {e f : Entry} (same : e.toSlot = f.toSlot) : e = f := by
  obtain ⟨slot, name, spelled⟩ := e
  obtain ⟨slot', name', spelled'⟩ := f
  obtain rfl : slot = slot' := same
  obtain rfl : name = name' := String.toList_injective (spelled.unique spelled')
  rfl

section

variable {δ : Type} {members : List (Member δ)} {e : Entry} {es : List Entry} {d d' : δ}
  {fuel : Nat} {first : Bool}

/-- A member is skipped if it is unknown, refused if it is there already, and read otherwise. -/
theorem readMembers_entry (named : readName first s =
      (scanString (e.behind rest)).map fun p => (some p.1, p.2))
    (isValue : IsValue e.value.text) (apart : Apart rest) :
    readMembers members (fuel + 1) first d s =
      match members.find? (fun m => m.name == e.name) with
      | none => readMembers members fuel false d (e.value.after ++ rest)
      | some m =>
        if m.filled d then .error .unsuitable
        else
          (m.read d (e.value.before ++ (e.value.text ++ (e.value.after ++ rest)))).bind fun p =>
            readMembers members fuel false p.1 p.2 := by
  have scanned := scanString_append e.spelled (e.between ++ ':' :: (e.value.before ++
    (e.value.text ++ (e.value.after ++ rest))))
  have names : (fun m : Member δ => m.name.toList == e.name.toList) =
      fun m => m.name == e.name := by
    ext m
    rw [Bool.eq_iff_iff, beq_iff_eq, beq_iff_eq, String.toList_inj]
  rw [Slot.behind, scanned] at named
  rw [readMembers]
  simp only [named, Except.map, bind, Except.bind, names]
  cases members.find? (fun m => m.name == e.name) with
  | none =>
    simp only [skipColon_append e.gap_between, skipValue_append isValue e.value.gap_before
      (e.value.gap_after.apart apart)]
  | some m =>
    by_cases filled : m.filled d = true
    · simp only [if_pos filled]
    · simp only [if_neg filled, skipColon_append e.gap_between]

/-- Members with different names, each of which is read to its end and fills itself alone. -/
structure Lawful (members : List (Member δ)) : Prop where
  distinct : (members.map Member.name).Nodup
  confined : ∀ m ∈ members, ∀ d, Confined (m.read d)
  fills : ∀ m ∈ members, ∀ d s d' r, m.read d s = .ok (d', r) →
    ∀ k ∈ members, k.filled d' = (k.filled d || k.name == m.name)

/-- What follows the value of an entry in front of others. -/
def Entry.following (e : Entry) (es : List Entry) (rest : List Char) : List Char :=
  e.value.after ++ closing '\x7d' ((es.map Entry.toSlot).map Slot.chars) rest

theorem Entry.apart_following (e : Entry) (es : List Entry) (rest : List Char) :
    Apart (e.following es rest) :=
  e.value.gap_after.apart (apart_closing (by decide) _ _)

/-- A member takes one draft to the next: an unknown one changes nothing, and a known one that was
not there yet is read. -/
inductive Takes (members : List (Member δ)) (behind : List Char) (e : Entry) : δ → δ → Prop
  | unknown {d : δ} : (∀ m ∈ members, m.name ≠ e.name) → Takes members behind e d d
  | known {m : Member δ} {d d' : δ} : m ∈ members → m.name = e.name → m.filled d = false →
      m.read d (e.value.before ++ (e.value.text ++ behind)) = .ok (d', behind) →
      Takes members behind e d d'

/-- Members taken one after the other, up to the end of their object. -/
inductive TakesAll (members : List (Member δ)) (rest : List Char) : List Entry → δ → δ → Prop
  | nil {d : δ} : TakesAll members rest [] d d
  | cons {e : Entry} {es : List Entry} {d d₁ d' : δ} :
      Takes members (e.following es rest) e d d₁ → TakesAll members rest es d₁ d' →
      TakesAll members rest (e :: es) d d'

variable {behind : List Char}

theorem Takes.filled (takes : Takes members behind e d d') (lawful : Lawful members)
    {k : Member δ} (member : k ∈ members) : k.filled d' = (k.filled d || k.name == e.name) := by
  cases takes with
  | unknown other => simp [other k member]
  | known known name _ read => rw [lawful.fills _ known _ _ _ _ read k member, name]

theorem Takes.unfilled (takes : Takes members behind e d d') (lawful : Lawful members)
    {k : Member δ} (member : k ∈ members) (name : k.name = e.name) : k.filled d = false := by
  cases takes with
  | unknown other => exact absurd name (other k member)
  | known known name' unfilled =>
    obtain rfl := List.inj_on_of_nodup_map lawful.distinct known member (name'.trans name.symm)
    exact unfilled

theorem TakesAll.filled (takes : TakesAll members rest es d d') (lawful : Lawful members)
    {k : Member δ} (member : k ∈ members) :
    k.filled d' = (k.filled d || (es.map Entry.name).contains k.name) := by
  induction takes with
  | nil => simp
  | cons first _ ih =>
    rw [ih, first.filled lawful member, List.map_cons, List.contains_cons, Bool.or_assoc]

theorem TakesAll.not_mem (takes : TakesAll members rest es d d') (lawful : Lawful members)
    {k : Member δ} (member : k ∈ members) (filled : k.filled d = true) :
    k.name ∉ es.map Entry.name := by
  induction takes with
  | nil => exact List.not_mem_nil
  | cons first _ ih =>
    rw [List.map_cons, List.mem_cons, not_or]
    constructor
    · intro name
      simp [first.unfilled lawful member name] at filled
    · apply ih
      rw [first.filled lawful member, filled, Bool.true_or]

theorem TakesAll.count_le_one (takes : TakesAll members rest es d d') (lawful : Lawful members)
    {k : Member δ} (member : k ∈ members) : (es.map Entry.name).count k.name ≤ 1 := by
  induction takes with
  | nil => simp
  | @cons e es d d₁ d' first others ih =>
    rw [List.map_cons, List.count_cons]
    by_cases name : e.name = k.name
    · have filled : k.filled d₁ = true := by
        rw [first.filled lawful member, name, beq_self_eq_true, Bool.or_true]
      rw [List.count_eq_zero_of_not_mem (others.not_mem lawful member filled)]
      split <;> omega
    · simpa [name] using ih

theorem TakesAll.exists_read (takes : TakesAll members rest es d d') (lawful : Lawful members)
    {k : Member δ} (member : k ∈ members) (there : e ∈ es) (name : k.name = e.name) :
    ∃ d₁ d₂ behind, k.read d₁ (e.value.before ++ (e.value.text ++ behind)) = .ok (d₂, behind) := by
  induction takes with
  | nil => contradiction
  | cons first _ ih =>
    obtain rfl | later := List.mem_cons.1 there
    · cases first with
      | unknown other => exact absurd name (other k member)
      | known known name' _ read =>
        obtain rfl := List.inj_on_of_nodup_map lawful.distinct known member (name'.trans name.symm)
        exact ⟨_, _, _, read⟩
    · exact ih later

theorem readMembers_of_takesAll (lawful : Lawful members)
    (isValue : ∀ e ∈ es, IsValue e.value.text) (takes : TakesAll members rest es d d')
    (continues : Continues first s rest (es.map Entry.toSlot)) (enough : es.length < fuel) :
    readMembers members fuel first d s = .ok (d', rest) := by
  induction takes generalizing fuel first s with
  | nil =>
    obtain ⟨fuel, rfl⟩ := Nat.exists_eq_add_of_le' enough
    rw [List.length_nil, readMembers, show readName first s = _ from continues]
    rfl
  | @cons e es d d₁ d' head _ ih =>
    obtain ⟨value, values⟩ := List.forall_mem_cons.1 isValue
    obtain ⟨fuel, rfl⟩ := Nat.exists_eq_add_of_le' (Nat.lt_of_le_of_lt (Nat.zero_le _) enough)
    have next := ih values (continues_closing e.value.gap_after (es.map Entry.toSlot) rest)
      (by simpa using enough : es.length < fuel)
    rw [readMembers_entry continues value (apart_closing (by decide) _ _)]
    cases head with
    | unknown other =>
      have none : members.find? (fun m => m.name == e.name) = none :=
        List.find?_eq_none.2 (by simpa using other)
      simpa only [none] using next
    | @known m _ _ member name unfilled read =>
      have found : members.find? (fun m => m.name == e.name) = some m := by
        obtain ⟨k, found⟩ : ∃ k, members.find? (fun m => m.name == e.name) = some k :=
          Option.isSome_iff_exists.1 (List.find?_isSome.2 ⟨m, member, by simp [name]⟩)
        have same : k.name = e.name := by simpa using List.find?_some found
        rwa [List.inj_on_of_nodup_map lawful.distinct (List.mem_of_find?_eq_some found) member
          (same.trans name.symm)] at found
      unfold Entry.following at read
      simp only [found, unfilled, Bool.false_eq_true, if_false, read, Except.bind]
      exact next

/-- If a member is read, it is spelled as some entry, which is taken, and what follows it is read
on. -/
theorem takes_of_readMembers {m : Slot} (lawful : Lawful members)
    (named : readName first s = (scanString (m.behind rest)).map fun p => (some p.1, p.2))
    (isBody : IsBody m.body) (isValue : IsValue m.value.text) (apart : Apart rest)
    (h : readMembers members fuel first d s = .ok (d', r)) :
    ∃ e fuel' d₁, e.toSlot = m ∧ Takes members (m.value.after ++ rest) e d d₁ ∧
      readMembers members fuel' false d₁ (m.value.after ++ rest) = .ok (d', r) := by
  cases fuel with
  | zero => cases h
  | succ fuel =>
    cases scanned : scanString (m.behind rest) with
    | error f =>
      rw [readMembers, named, scanned] at h
      cases h
    | ok p =>
      obtain ⟨cs, behind⟩ := p
      obtain ⟨-, spells⟩ := spells_of_scanString_append isBody scanned
      have spelled : Spells (String.ofList cs).toList m.body := by
        rwa [String.toList_ofList]
      -- the name that was scanned is the one that the member spells
      let e : Entry := { toSlot := m, name := String.ofList cs, spelled }
      have after := m.value.gap_after.apart apart
      rw [readMembers_entry (e := e) named isValue apart] at h
      cases found : members.find? (fun k => k.name == e.name) with
      | none =>
        rw [found] at h
        have other : ∀ k ∈ members, k.name ≠ e.name := by
          simpa using List.find?_eq_none.1 found
        exact ⟨e, fuel, d, rfl, .unknown other, h⟩
      | some k =>
        rw [found] at h
        have member := List.mem_of_find?_eq_some found
        have name : k.name = e.name := by simpa using List.find?_some found
        by_cases filled : k.filled d = true
        · simp [filled] at h
        · simp only [if_neg filled] at h
          obtain ⟨⟨d₁, behind'⟩, read, last⟩ := bind_eq_ok_iff.1 h
          obtain rfl := (lawful.confined k member d).rest_eq isValue m.value.gap_before after read
          exact ⟨e, fuel, d₁, rfl, .known member name (Bool.eq_false_iff.2 filled) read, last⟩

theorem takesAll_of_readMembers {slots : List Slot} (lawful : Lawful members)
    (isBody : ∀ m ∈ slots, IsBody m.body) (isValue : ∀ m ∈ slots, IsValue m.value.text)
    (continues : Continues first s rest slots)
    (h : readMembers members fuel first d s = .ok (d', r)) :
    r = rest ∧ ∃ es, es.map Entry.toSlot = slots ∧ TakesAll members rest es d d' := by
  induction slots generalizing fuel first d s with
  | nil =>
    cases fuel with
    | zero => cases h
    | succ fuel =>
      rw [readMembers, show readName first s = _ from continues] at h
      obtain ⟨rfl, rfl⟩ := Prod.mk.inj (Except.ok.inj h)
      exact ⟨rfl, [], rfl, .nil⟩
  | cons m slots ih =>
    obtain ⟨body, bodies⟩ := List.forall_mem_cons.1 isBody
    obtain ⟨value, values⟩ := List.forall_mem_cons.1 isValue
    obtain ⟨e, _, d₁, rfl, takes, later⟩ :=
      takes_of_readMembers lawful continues body value (apart_closing (by decide) _ _) h
    obtain ⟨rfl, es, rfl, others⟩ :=
      ih bodies values (continues_closing e.value.gap_after slots rest) later
    exact ⟨rfl, e :: es, rfl, .cons takes others⟩

variable {σ : Type} {blank : δ} {finish : δ → Option σ} {a : σ}

theorem readRecord_object (gap : Gap g) (s : List Char) :
    readRecord members blank finish (g ++ '\x7b' :: s) =
      (readMembers members (s.length + 1) true blank s).bind (finished finish) := by
  rw [readRecord, skipGap_append_cons gap (by decide)]
  rfl

theorem finished_eq_ok_iff {p : δ × List Char} :
    finished finish p = .ok (a, r) ↔ finish p.1 = some a ∧ p.2 = r := by
  unfold finished
  cases finish p.1 <;> simp

theorem HasSlots.isValue {slots : List Slot} (object : HasSlots slots s) : IsValue s :=
  .object object.enclosed object.bodies object.values

/-- A record is read from an object exactly if its members spell names and can be taken one after
the other, and if they make a record in the end. -/
theorem readRecord_eq_ok_iff {slots : List Slot} (lawful : Lawful members)
    (object : HasSlots slots s) (gap : Gap g) :
    readRecord members blank finish (g ++ (s ++ rest)) = .ok (a, r) ↔
      r = rest ∧ ∃ es d, es.map Entry.toSlot = slots ∧ TakesAll members rest es blank d ∧
        finish d = some a := by
  obtain ⟨t, rfl, continues⟩ := exists_continues object.enclosed
  rw [List.cons_append, readRecord_object gap]
  constructor
  · intro h
    obtain ⟨⟨d, behind⟩, read, last⟩ := bind_eq_ok_iff.1 h
    obtain ⟨rfl, es, same, takes⟩ :=
      takesAll_of_readMembers lawful object.bodies object.values (continues rest) read
    obtain ⟨made, rfl⟩ := finished_eq_ok_iff.1 last
    exact ⟨rfl, es, d, same, takes, made⟩
  · rintro ⟨rfl, es, d, rfl, takes, made⟩
    have few := length_lt_of_enclosed object.enclosed
    rw [List.length_map, List.length_map, List.length_cons] at few
    have values : ∀ e ∈ es, IsValue e.value.text :=
      fun e there => object.values e.toSlot (List.mem_map_of_mem there)
    have read := readMembers_of_takesAll lawful values takes (continues r)
      (by rw [List.length_append]; omega : es.length < (t ++ r).length + 1)
    rw [read]
    exact finished_eq_ok_iff.2 ⟨made, rfl⟩

theorem IsObject.hasSlots {entries : List Entry} (object : IsObject entries s) :
    HasSlots (entries.map Entry.toSlot) s := by
  refine ⟨?_, ?_, ?_⟩
  · rw [List.map_map]
    exact object.enclosed
  · intro m member
    obtain ⟨e, -, rfl⟩ := List.mem_map.1 member
    exact isBody_of_spells e.spelled
  · intro m member
    obtain ⟨e, there, rfl⟩ := List.mem_map.1 member
    exact object.values e there

/-- A text goes on with items and the end of their list. -/
inductive Proceeds (rest : List Char) : Bool → List Char → List Padded → Prop
  | done {first : Bool} {g : List Char} : Gap g → Proceeds rest first (g ++ ']' :: rest) []
  | first {i : Padded} {items : List Padded} :
      Proceeds rest true (i.chars ++ closing ']' (items.map Padded.chars) rest) (i :: items)
  | later {g : List Char} {i : Padded} {items : List Padded} : Gap g →
      Proceeds rest false (g ++ ',' :: (i.chars ++ closing ']' (items.map Padded.chars) rest))
        (i :: items)

theorem proceeds_closing (gap : Gap g) (items : List Padded) (rest : List Char) :
    Proceeds rest false (g ++ closing ']' (items.map Padded.chars) rest) items := by
  cases items with
  | nil => exact .done gap
  | cons i items =>
    rw [List.map_cons, closing_cons]
    exact .later gap

theorem proceeds_of_enclosed {items : List Padded}
    (enclosed : Enclosed '[' ']' (items.map Padded.chars) ('[' :: t)) (rest : List Char) :
    Proceeds rest true (t ++ rest) items := by
  obtain ⟨none, inner, gap, same⟩ | ⟨p, ps, parts, same⟩ := enclosed.shape
  · obtain rfl := (List.cons.inj same).2
    obtain rfl := List.map_eq_nil_iff.1 none
    rw [List.append_assoc, List.singleton_append]
    exact .done gap
  · obtain rfl := (List.cons.inj same).2
    obtain ⟨i, items, rfl, rfl, rfl⟩ := List.map_eq_cons_iff.1 parts
    rw [List.append_assoc, closing_append, List.nil_append]
    exact .first

theorem startItem_of_proceeds {i : Padded} {items : List Padded} (isValue : IsValue i.text)
    (proceeds : Proceeds rest first s (i :: items)) :
    startItem first s =
      .ok (i.text ++ (i.after ++ closing ']' (items.map Padded.chars) rest)) := by
  obtain ⟨c, t, start, headed⟩ := isValue.exists_headed
  cases proceeds with
  | first =>
    rw [Padded.chars_append, start, List.cons_append, startItem,
      skipGap_append_cons i.gap_before headed.stop.1]
    split
    · contradiction
    · rename_i same
      exact absurd (List.cons.inj same).1 headed.stop.2
    · rename_i same
      rw [same, if_pos rfl]
  | later gap =>
    rw [Padded.chars_append, start, List.cons_append, startItem,
      skipGap_append_cons gap (by decide)]
    split
    · contradiction
    · rename_i same
      exact absurd (List.cons.inj same).1 (by decide)
    · rename_i same
      obtain ⟨rfl, rfl⟩ := List.cons.inj same
      rw [if_neg Bool.false_ne_true, if_pos rfl,
        skipGap_append_cons i.gap_before headed.stop.1]
      split
      · contradiction
      · rename_i same
        exact absurd (List.cons.inj same).1 headed.stop.2
      · rfl

theorem readItems_nil_of_proceeds {i : Padded} {items : List Padded} (isValue : IsValue i.text)
    (proceeds : Proceeds rest first s (i :: items)) :
    readItems [] first d s = .error .malformed := by
  obtain ⟨c, t, start, headed⟩ := isValue.exists_headed
  cases proceeds with
  | first =>
    rw [Padded.chars_append, start, List.cons_append, readItems,
      skipGap_append_cons i.gap_before headed.stop.1]
    split
    · contradiction
    · rename_i same
      exact absurd (List.cons.inj same).1 headed.stop.2
    · rfl
  | later gap =>
    rw [readItems, skipGap_append_cons gap (by decide)]
    rfl

theorem readItems_cons {m : Member δ} {ms : List (Member δ)}
    (started : startItem first s = .ok t) :
    readItems (m :: ms) first d s =
      (m.read d t).bind fun p => readItems ms false p.1 p.2 := by
  rw [readItems, started]
  rfl

theorem rest_of_readItems {ms : List (Member δ)} {items : List Padded}
    (confined : ∀ m ∈ ms, ∀ d, Confined (m.read d)) (isValue : ∀ i ∈ items, IsValue i.text)
    (proceeds : Proceeds rest first s items) (h : readItems ms first d s = .ok (d', r)) :
    r = rest := by
  induction items generalizing ms first d s with
  | nil =>
    obtain ⟨gap⟩ := proceeds
    cases ms with
    | nil =>
      rw [readItems, skipGap_append_cons gap (by decide)] at h
      exact (Prod.mk.inj (Except.ok.inj h)).2.symm
    | cons m ms =>
      rw [readItems, startItem, skipGap_append_cons gap (by decide)] at h
      cases h
  | cons i items ih =>
    obtain ⟨value, values⟩ := List.forall_mem_cons.1 isValue
    cases ms with
    | nil =>
      rw [readItems_nil_of_proceeds value proceeds] at h
      cases h
    | cons m ms =>
      obtain ⟨confined, others⟩ := List.forall_mem_cons.1 confined
      rw [readItems_cons (startItem_of_proceeds value proceeds)] at h
      obtain ⟨⟨d₁, t⟩, read, last⟩ := bind_eq_ok_iff.1 h
      have behind : Apart (i.after ++ closing ']' (items.map Padded.chars) rest) :=
        i.gap_after.apart (apart_closing (by decide) _ _)
      obtain rfl := (confined d).rest_eq value gap_nil behind read
      exact ih others values (proceeds_closing i.gap_after items rest) last

theorem confined_readRecord (lawful : Lawful members) :
    Confined (readRecord members blank finish) := by
  refine ⟨fun {s g rest r a} isValue gap apart h => ?_⟩
  obtain ⟨c, t, rfl, headed⟩ := isValue.exists_headed
  cases headed with
  | object enclosed isBody values =>
    exact ((readRecord_eq_ok_iff lawful ⟨enclosed, isBody, values⟩ gap).1 h).1
  | array enclosed values =>
    rw [List.cons_append, readRecord, skipGap_append_cons gap (by decide)] at h
    obtain ⟨⟨d, behind⟩, read, last⟩ := bind_eq_ok_iff.1 h
    obtain rfl := rest_of_readItems lawful.confined values (proceeds_of_enclosed enclosed rest) read
    exact (finished_eq_ok_iff.1 last).2.symm
  | number first =>
    rw [readRecord, List.cons_append, skipGap_append_cons gap (isGap_of_number first)] at h
    split at h
    · rename_i same
      exact absurd (List.cons.inj same).1 (ne_of_number first (by decide))
    · rename_i same
      exact absurd (List.cons.inj same).1 (ne_of_number first (by decide))
    · cases h
  | _ =>
    rw [readRecord, List.cons_append, skipGap_append_cons gap (by decide)] at h
    cases h

end

end WarmupGate.Json
