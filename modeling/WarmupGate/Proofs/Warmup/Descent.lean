import Mathlib.Order.Bounds.Basic
import WarmupGate.Warmup.History

/-!
# What scopes descend from

Which scopes a scope comes from, by when it has to end and when its root's handle was used, read off
what was done and not off the forest. Nothing of it changes for a scope that is there, whatever is
done later, but for the uses of the handle.
-/
namespace WarmupGate.Warmup.History

variable {h g past later : History} {move : Move} {b : Birth} {i j a p r s k instant : Nat}

/-- A scope comes from itself, from the one that it was made from, and so on. -/
inductive Descends (h : History) : Nat → Nat → Prop
  | self {i : Nat} : i < h.births.length → Descends h i i
  | parent {i p a : Nat} {b : Birth} : h.births[i]? = some b → b.parent = some p →
      Descends h p a → Descends h i a

def Root (h : History) (i r : Nat) : Prop :=
  Descends h i r ∧ ∃ b, h.births[r]? = some b ∧ b.parent = none

/-- The instants at which a scope and those that it comes from end by the times that they were
given. -/
def bounds (h : History) (i : Nat) : Set Span :=
  {d | ∃ a b timeout, Descends h i a ∧ h.births[a]? = some b ∧ b.timeout = some timeout ∧
    d.nanos = b.instant + timeout.nanos}

def Dropped (h : History) (r : Nat) : Prop :=
  ∃ (k : Nat) (later past : History), h = later ++ .dropHandle k :: past ∧ Root past k r

/-- A root has a handle, which was not given up yet. -/
def Held (h : History) (r : Nat) : Prop :=
  (∃ b, h.births[r]? = some b ∧ b.handle = true) ∧ ¬ Dropped h r

/-- The handle of a root was used at an instant. -/
def UsedAt (h : History) (r instant : Nat) : Prop :=
  ∃ (k : Nat) (later past : History), h = later ++ .cancel k :: past ∧ Root past k r ∧
    Held past r ∧ past.elapsed = instant

inductive FallsOn (h : History) (i : Nat) : Cause → Nat → Prop
  | canceled {r instant : Nat} : Root h i r → UsedAt h r instant → FallsOn h i .canceled instant
  | deadline {d : Span} : IsLeast (bounds h i) d → FallsOn h i .deadline d.nanos

def Came (h : History) (i : Nat) (cause : Cause) : Prop :=
  ∃ instant ≤ h.elapsed, FallsOn h i cause instant

/-- When who waits for the end of a scope hears of it: at once of the use of the handle, and of the
deadline when its timer fires, in the first whole millisecond that is not earlier. -/
inductive HeardAt (h : History) (i : Nat) : Cause → Nat → Prop
  | canceled {instant : Nat} : FallsOn h i .canceled instant → HeardAt h i .canceled instant
  | deadline {instant : Nat} : FallsOn h i .deadline instant →
      HeardAt h i .deadline (Span.ofMillis (Span.ceilMillis ⟨instant⟩)).nanos

def Heard (h : History) (i : Nat) (cause : Cause) : Prop :=
  ∃ instant ≤ h.elapsed, HeardAt h i cause instant

theorem births_cons (move : Move) (past : History) : births (move :: past) =
    past.births ++ (born past.births.length past.elapsed move).toList := rfl

theorem getElem?_births_cons (there : i < past.births.length) :
    (births (move :: past))[i]? = past.births[i]? :=
  List.getElem?_append_left there

theorem getElem?_births_new (made : born past.births.length past.elapsed move = some b) :
    (births (move :: past))[past.births.length]? = some b := by
  rw [births_cons, made]
  simp

theorem lt_or_new (there : i < (births (move :: past)).length) : i < past.births.length ∨
    i = past.births.length ∧ ∃ b, born past.births.length past.elapsed move = some b := by
  cases made : born past.births.length past.elapsed move with
  | none =>
    rw [births_cons, made] at there
    exact .inl (by simpa using there)
  | some b =>
    rw [births_cons, made] at there
    have bound : i < past.births.length + 1 := by simpa using there
    obtain old | new := Nat.lt_or_eq_of_le (Nat.le_of_lt_succ bound)
    · exact .inl old
    · exact .inr ⟨new, b, rfl⟩

theorem length_births_le (later past : History) :
    past.births.length ≤ (later ++ past : History).births.length := by
  induction later with
  | nil => exact Nat.le_refl _
  | cons move later ih =>
    rw [List.cons_append, births_cons, List.length_append]
    omega

theorem elapsed_cons_le (move : Move) (past : History) : past.elapsed ≤ elapsed (move :: past) := by
  cases move with
  | advance nanos => exact Nat.le_add_right _ _
  | _ => exact Nat.le_refl _

theorem elapsed_le (later past : History) : past.elapsed ≤ (later ++ past : History).elapsed := by
  induction later with
  | nil => exact Nat.le_refl _
  | cons move later ih => exact Nat.le_trans ih (elapsed_cons_le move _)

inductive Born (count instant : Nat) : Move → Birth → Prop
  | background : Born count instant .background { instant }
  | withCancel : Born count instant .withCancel { instant, handle := true }
  | withTimeout {parent : Nat} (timeout : Span) : parent < count →
      Born count instant (.withTimeout parent timeout) { parent, timeout, instant }
  | clone {original : Nat} : original < count →
      Born count instant (.clone original) { parent := original, instant }

theorem born_cases {count : Nat} (made : born count instant move = some b) :
    Born count instant move b := by
  cases move with
  | background =>
    cases made
    exact .background
  | withCancel =>
    cases made
    exact .withCancel
  | withTimeout parent timeout =>
    obtain ⟨below, made⟩ := Option.ite_none_right_eq_some.1 made
    cases made
    exact .withTimeout timeout below
  | clone original =>
    obtain ⟨below, made⟩ := Option.ite_none_right_eq_some.1 made
    cases made
    exact .clone below
  | _ => cases made

theorem parent_lt_of_born {count : Nat} (made : born count instant move = some b)
    (child : b.parent = some p) : p < count := by
  cases born_cases made with
  | background => cases child
  | withCancel => cases child
  | withTimeout timeout below =>
    cases child
    exact below
  | clone below =>
    cases child
    exact below

theorem parent_lt (there : h.births[i]? = some b) (child : b.parent = some p) : p < i := by
  induction h with
  | nil => cases there
  | cons move past ih =>
    have bound : i < (births (move :: past)).length := (List.getElem?_eq_some_iff.1 there).1
    obtain old | ⟨rfl, c, made⟩ := lt_or_new bound
    · rw [getElem?_births_cons old] at there
      exact ih there
    · rw [getElem?_births_new made] at there
      cases there
      exact parent_lt_of_born made child

theorem Descends.lt (h' : Descends h i a) : i < h.births.length ∧ a < h.births.length := by
  induction h' with
  | self there => exact ⟨there, there⟩
  | parent there _ _ ih => exact ⟨(List.getElem?_eq_some_iff.1 there).1, ih.2⟩

theorem descends_congr (same : g.births = h.births) : Descends g i a ↔ Descends h i a := by
  constructor <;> intro descent <;> induction descent with
  | self there => exact .self (by simpa [same] using there)
  | parent there child _ ih => exact .parent (by simpa [same] using there) child ih

theorem root_congr (same : g.births = h.births) : Root g i r ↔ Root h i r := by
  rw [Root, Root, descends_congr same, same]

theorem descends_cons (there : i < past.births.length) :
    Descends (move :: past) i a ↔ Descends past i a := by
  constructor <;> intro descent
  · induction descent with
    | self => exact .self there
    | parent born child _ ih =>
      rw [getElem?_births_cons there] at born
      exact .parent born child (ih (Nat.lt_trans (parent_lt born child) there))
  · induction descent with
    | self => exact .self (Nat.lt_of_lt_of_le there (length_births_le [move] past))
    | parent born child _ ih =>
      exact .parent ((getElem?_births_cons there).trans born) child
        (ih (Nat.lt_trans (parent_lt born child) there))

theorem descends_new (made : born past.births.length past.elapsed move = some b) :
    Descends (move :: past) past.births.length a ↔
      a = past.births.length ∨ ∃ p, b.parent = some p ∧ Descends past p a := by
  have new := getElem?_births_new made
  constructor
  · intro descent
    cases descent with
    | self => exact .inl rfl
    | parent there child descent =>
      cases there.symm.trans new
      exact .inr ⟨_, child, (descends_cons (parent_lt_of_born made child)).1 descent⟩
  · rintro (rfl | ⟨p, child, descent⟩)
    · exact .self (List.getElem?_eq_some_iff.1 new).1
    · exact .parent new child ((descends_cons (parent_lt_of_born made child)).2 descent)

theorem root_cons (there : i < past.births.length) : Root (move :: past) i r ↔ Root past i r := by
  unfold Root
  rw [descends_cons there]
  refine and_congr_right fun descent => ?_
  rw [getElem?_births_cons descent.lt.2]

/-- A new root comes from itself, and what is made from a scope comes from that scope's root. -/
theorem root_new (made : born past.births.length past.elapsed move = some b) :
    Root (move :: past) past.births.length r ↔
      (b.parent = none ∧ r = past.births.length) ∨ ∃ p, b.parent = some p ∧ Root past p r := by
  have new := getElem?_births_new made
  unfold Root
  rw [descends_new made]
  constructor
  · rintro ⟨rfl | ⟨p, child, descent⟩, c, there, top⟩
    · cases there.symm.trans new
      exact .inl ⟨top, rfl⟩
    · rw [getElem?_births_cons descent.lt.2] at there
      exact .inr ⟨p, child, descent, c, there, top⟩
  · rintro (⟨top, rfl⟩ | ⟨p, child, descent, c, there, top⟩)
    · exact ⟨.inl rfl, b, new, top⟩
    · exact ⟨.inr ⟨p, child, descent⟩, c, (getElem?_births_cons descent.lt.2).trans there, top⟩

theorem Root.lt (root : Root h i r) : i < h.births.length ∧ r < h.births.length := root.1.lt

theorem exists_root (there : i < h.births.length) : ∃ r, Root h i r := by
  induction i using Nat.strongRecOn with
  | _ i ih =>
    have made := List.getElem?_eq_getElem there
    cases parent : h.births[i].parent with
    | none => exact ⟨i, .self there, _, made, parent⟩
    | some p =>
      have earlier := parent_lt made parent
      obtain ⟨r, descent, top⟩ := ih p earlier (Nat.lt_trans earlier there)
      exact ⟨r, .parent made parent descent, top⟩

theorem Root.unique (first : Root h i r) (second : Root h i s) : r = s := by
  obtain ⟨descent, top⟩ := first
  induction descent with
  | self there =>
    obtain ⟨b, made, top⟩ := top
    cases second.1 with
    | self => rfl
    | parent made' child =>
      cases made.symm.trans made'
      rw [top] at child
      cases child
  | parent made child _ ih =>
    obtain ⟨other, top'⟩ := second
    cases other with
    | self =>
      obtain ⟨c, made', top'⟩ := top'
      cases made.symm.trans made'
      rw [top'] at child
      cases child
    | parent made' child' descent =>
      cases made.symm.trans made'
      cases child.symm.trans child'
      exact ih ⟨descent, top'⟩ top

theorem bounds_cons (there : i < past.births.length) :
    bounds (move :: past) i = bounds past i := by
  ext d
  constructor
  · rintro ⟨a, b, timeout, descent, made, given, sum⟩
    have earlier := (descends_cons there).1 descent
    rw [getElem?_births_cons earlier.lt.2] at made
    exact ⟨a, b, timeout, earlier, made, given, sum⟩
  · rintro ⟨a, b, timeout, descent, made, given, sum⟩
    exact ⟨a, b, timeout, (descends_cons there).2 descent,
      (getElem?_births_cons descent.lt.2).trans made, given, sum⟩

theorem mem_bounds_new (made : born past.births.length past.elapsed move = some b) {d : Span} :
    d ∈ bounds (move :: past) past.births.length ↔
      (∃ timeout, b.timeout = some timeout ∧
          d.nanos = b.instant + timeout.nanos) ∨
        ∃ p, b.parent = some p ∧ d ∈ bounds past p := by
  have new := getElem?_births_new made
  constructor
  · rintro ⟨a, c, timeout, descent, there, given, sum⟩
    obtain rfl | ⟨p, child, descent⟩ := (descends_new made).1 descent
    · cases there.symm.trans new
      exact .inl ⟨timeout, given, sum⟩
    · rw [getElem?_births_cons descent.lt.2] at there
      exact .inr ⟨p, child, a, c, timeout, descent, there, given, sum⟩
  · rintro (⟨timeout, given, sum⟩ | ⟨p, child, a, c, timeout, descent, there, given, sum⟩)
    · exact ⟨_, b, timeout, (descends_new made).2 (.inl rfl), new, given, sum⟩
    · exact ⟨a, c, timeout, (descends_new made).2 (.inr ⟨p, child, descent⟩),
        (getElem?_births_cons descent.lt.2).trans there, given, sum⟩

theorem exists_split_cons {event : Move} {happens : History → Prop} :
    (∃ later past', move :: past = later ++ event :: past' ∧ happens past') ↔
      (move = event ∧ happens past) ∨
        ∃ later past', past = later ++ event :: past' ∧ happens past' := by
  constructor
  · rintro ⟨_ | ⟨m, later⟩, past', split, held⟩
    · cases split
      exact .inl ⟨rfl, held⟩
    · cases split
      exact .inr ⟨later, past', rfl, held⟩
  · rintro (⟨rfl, held⟩ | ⟨later, past', rfl, held⟩)
    · exact ⟨[], past, rfl, held⟩
    · exact ⟨move :: later, past', rfl, held⟩

theorem dropped_cons : Dropped (move :: past) r ↔
    (∃ k, move = .dropHandle k ∧ Root past k r) ∨ Dropped past r := by
  simp only [Dropped, exists_split_cons, exists_or]

theorem usedAt_cons : UsedAt (move :: past) r instant ↔
    (∃ k, move = .cancel k ∧ Root past k r ∧ Held past r ∧ past.elapsed = instant) ∨
      UsedAt past r instant := by
  simp only [UsedAt, exists_split_cons, exists_or]

theorem Dropped.lt (dropped : Dropped h r) : r < h.births.length := by
  obtain ⟨k, later, past, rfl, root⟩ := dropped
  exact Nat.lt_of_lt_of_le root.lt.2
    (Nat.le_trans (length_births_le [_] past) (length_births_le later _))

theorem UsedAt.le (used : UsedAt h r instant) : r < h.births.length ∧ instant ≤ h.elapsed := by
  obtain ⟨k, later, past, rfl, root, -, rfl⟩ := used
  exact ⟨Nat.lt_of_lt_of_le root.lt.2
      (Nat.le_trans (length_births_le [_] past) (length_births_le later _)),
    Nat.le_trans (elapsed_cons_le _ past) (elapsed_le later _)⟩

theorem held_cons (there : r < past.births.length) : Held (move :: past) r ↔
    Held past r ∧ ∀ k, move = .dropHandle k → ¬ Root past k r := by
  unfold Held
  rw [getElem?_births_cons there, dropped_cons, not_or, not_exists]
  simp only [not_and]
  exact ⟨fun ⟨handle, kept, held⟩ => ⟨⟨handle, held⟩, kept⟩,
    fun ⟨⟨handle, held⟩, kept⟩ => ⟨handle, kept, held⟩⟩

theorem held_new (made : born past.births.length past.elapsed move = some b) :
    Held (move :: past) past.births.length ↔ b.handle = true := by
  have kept : ¬ Dropped (move :: past) past.births.length := by
    rw [dropped_cons]
    rintro (⟨k, -, root⟩ | dropped)
    · exact absurd root.lt.2 (Nat.lt_irrefl _)
    · exact absurd dropped.lt (Nat.lt_irrefl _)
  simp [Held, getElem?_births_new made, kept]

theorem not_usedAt_new : ¬ UsedAt (move :: past) past.births.length instant := by
  rw [usedAt_cons]
  rintro (⟨k, -, root, -⟩ | used)
  · exact absurd root.lt.2 (Nat.lt_irrefl _)
  · exact absurd used.le.1 (Nat.lt_irrefl _)

end WarmupGate.Warmup.History
