import Mathlib.Data.List.Nodup
import WarmupGate.Controller.Outcome
import WarmupGate.Proofs.Pod.Condition

/-!
# One entry at a time

An upsert changes one entry, the first of its type, where it stands; without such an entry it adds
one at the end. All other entries stay where they are, later ones of the type included. What the
controller writes leaves the probe time and the generation open, so the last of several writes is
all that is seen of them. Two writers that set these fields themselves are not covered by that.
-/
namespace WarmupGate.Condition

variable {cs before after : List Condition} {c d old : Condition} {type : String}

theorem find?_append_cons (others : ∀ e ∈ before, e.type ≠ type) (same : old.type = type) :
    find? type (before ++ old :: after) = some old :=
  find?_eq_some_iff_cut.2 ⟨same, before, after, rfl, others⟩

theorem upsert_of_absent (absent : ∀ e ∈ cs, e.type ≠ c.type) : upsert cs c = cs ++ [c] := by
  induction cs with
  | nil => rfl
  | cons e rest ih =>
    rw [upsert, if_neg (absent e List.mem_cons_self),
      ih fun other inside => absent other (List.mem_cons_of_mem _ inside), List.cons_append]

theorem upsert_append_cons (others : ∀ e ∈ before, e.type ≠ c.type) (same : old.type = c.type) :
    upsert (before ++ old :: after) c = before ++ takeOver old c :: after := by
  induction before with
  | nil => exact if_pos same
  | cons e rest ih =>
    rw [List.cons_append, upsert, if_neg (others e List.mem_cons_self),
      ih fun other inside => others other (List.mem_cons_of_mem _ inside), List.cons_append]

/-- A list has no entry of the type, or it can be cut at the first one. -/
theorem upsert_cases (cs : List Condition) (c : Condition) :
    ((∀ e ∈ cs, e.type ≠ c.type) ∧ upsert cs c = cs ++ [c]) ∨
      ∃ before old after, cs = before ++ old :: after ∧ (∀ e ∈ before, e.type ≠ c.type) ∧
        old.type = c.type ∧ upsert cs c = before ++ takeOver old c :: after := by
  cases found : find? c.type cs with
  | none =>
    have absent := find?_eq_none_iff.1 found
    exact .inl ⟨absent, upsert_of_absent absent⟩
  | some old =>
    obtain ⟨same, before, after, rfl, others⟩ := find?_eq_some_iff_cut.1 found
    exact .inr ⟨before, old, after, rfl, others, same, upsert_append_cons others same⟩

/-- A list after an upsert, entry by entry. -/
structure Upserted (cs : List Condition) (c : Condition) (result : List Condition) : Prop where
  /-- Entries of other types, and those that have one of the type before them, stay in place. -/
  kept : ∀ (i : ℕ) (e : Condition), cs[i]? = some e →
    (e.type ≠ c.type ∨ ∃ j < i, ∃ d, cs[j]? = some d ∧ d.type = c.type) → result[i]? = some e
  appended : (∀ e ∈ cs, e.type ≠ c.type) → result = cs ++ [c]
  length : (∃ e ∈ cs, e.type = c.type) → result.length = cs.length
  first : ∃ entry, find? c.type result = some entry ∧ entry.status = c.status ∧
    entry.reason = c.reason ∧ entry.message = c.message ∧ entry.lastTransition = c.lastTransition ∧
    ∀ former, find? c.type cs = some former →
      entry.lastProbe = former.lastProbe ∧ entry.observedGeneration = former.observedGeneration

theorem upserted_of_absent (absent : ∀ e ∈ cs, e.type ≠ c.type) : Upserted cs c (cs ++ [c]) where
  kept i e there _ := by
    obtain ⟨inside, -⟩ := List.getElem?_eq_some_iff.1 there
    rwa [List.getElem?_append_left inside]
  appended _ := rfl
  length := fun ⟨e, inside, same⟩ => absurd same (absent e inside)
  first := by
    refine ⟨c, find?_append_cons absent rfl, rfl, rfl, rfl, rfl, fun former found => ?_⟩
    rw [find?_eq_none_iff.2 absent] at found
    cases found

theorem upserted_of_cut (others : ∀ e ∈ before, e.type ≠ c.type) (same : old.type = c.type) :
    Upserted (before ++ old :: after) c (before ++ takeOver old c :: after) where
  kept i e there other := by
    have elsewhere : i ≠ before.length := by
      rintro rfl
      obtain rfl : old = e := by simpa using there
      obtain different | ⟨j, earlier, d, there, same⟩ := other
      · exact different same
      · rw [List.getElem?_append_left earlier] at there
        exact others d (List.mem_of_getElem? there) same
    rcases Nat.lt_or_gt_of_ne elsewhere with left | right
    · rwa [List.getElem?_append_left left] at there ⊢
    · obtain ⟨k, rfl⟩ := Nat.exists_eq_add_of_lt right
      simpa [List.getElem?_append_right, Nat.add_assoc] using there
  appended absent := absurd same (absent old (by simp))
  length _ := by simp
  first := by
    refine ⟨takeOver old c, find?_append_cons others same, rfl, rfl, rfl, rfl, fun former found => ?_⟩
    rw [find?_append_cons others same] at found
    cases found
    exact ⟨rfl, rfl⟩

theorem upserted_upsert (cs : List Condition) (c : Condition) : Upserted cs c (upsert cs c) := by
  obtain ⟨absent, eq⟩ | ⟨before, old, after, rfl, others, same, eq⟩ := upsert_cases cs c
  · exact eq ▸ upserted_of_absent absent
  · exact eq ▸ upserted_of_cut others same

theorem map_type_upsert (cs : List Condition) (c : Condition) :
    (upsert cs c).map Condition.type =
      if c.type ∈ cs.map Condition.type then cs.map Condition.type
      else cs.map Condition.type ++ [c.type] := by
  obtain ⟨absent, eq⟩ | ⟨before, old, after, rfl, others, same, eq⟩ := upsert_cases cs c
  · rw [eq, if_neg (by simpa using absent)]
    simp
  · rw [eq, if_pos (by simp [same])]
    simp [takeOver]

theorem nodup_upsert (c : Condition) (single : (cs.map Condition.type).Nodup) :
    ((upsert cs c).map Condition.type).Nodup := by
  rw [map_type_upsert]
  split
  · exact single
  · rename_i absent
    exact single.append (List.nodup_singleton _) (by simpa using absent)

/-- Nothing of one entry is seen any more after the other has been written over it. -/
structure Covers (d c : Condition) : Prop where
  type : c.type = d.type
  lastProbe : c.lastProbe = d.lastProbe
  observedGeneration : c.observedGeneration = d.observedGeneration

theorem takeOver_of_covers (h : Covers d c) : takeOver c d = d := by
  obtain ⟨type, lastProbe, observedGeneration⟩ := h
  cases d
  simp_all [takeOver]

theorem takeOver_takeOver (old c d : Condition) : takeOver (takeOver old c) d = takeOver old d := rfl

theorem upsert_upsert (cs : List Condition) (h : Covers d c) :
    upsert (upsert cs c) d = upsert cs d := by
  obtain ⟨absent, eq⟩ | ⟨before, old, after, rfl, others, same, eq⟩ := upsert_cases cs c
  · rw [h.type] at absent
    rw [eq, upsert_append_cons absent h.type, takeOver_of_covers h, upsert_of_absent absent]
  · rw [h.type] at others same
    have taken : (takeOver old c).type = d.type := same
    rw [eq, upsert_append_cons others taken, upsert_append_cons others same, takeOver_takeOver]

theorem foldl_upsert (earlier : List Condition) (cs : List Condition)
    (covered : ∀ c ∈ earlier, Covers d c) : (earlier ++ [d]).foldl upsert cs = upsert cs d := by
  induction earlier generalizing cs with
  | nil => rfl
  | cons c rest ih =>
    -- The first write is lost under the last one, not under its successor.
    rw [List.cons_append, List.foldl_cons,
      ih (upsert cs c) fun other inside => covered other (List.mem_cons_of_mem _ inside),
      upsert_upsert cs (covered c List.mem_cons_self)]

def OfWarmup (c : Condition) : Prop :=
  ∃ (reason : Controller.Reason) (message : String) (now : Timestamp),
    c = reason.condition message now

theorem covers_of_ofWarmup (first : OfWarmup c) (second : OfWarmup d) : Covers d c := by
  obtain ⟨_, _, _, rfl⟩ := first
  obtain ⟨_, _, _, rfl⟩ := second
  exact ⟨rfl, rfl, rfl⟩

/-- An upsert changes the first entry of its type and nothing else, or adds an entry at the end. So
no type gets a second entry, a second upsert of the same condition changes nothing, and of any
number of writes of the controller the last one alone decides. -/
theorem upsert_changes_one_entry (cs : List Condition) (c : Condition) :
    Upserted cs c (upsert cs c) ∧
      ((cs.map Condition.type).Nodup → ((upsert cs c).map Condition.type).Nodup) ∧
      upsert (upsert cs c) c = upsert cs c ∧
      ∀ (earlier : List Condition) (last : Condition), (∀ w ∈ earlier ++ [last], OfWarmup w) →
        (earlier ++ [last]).foldl upsert cs = upsert cs last := by
  refine ⟨upserted_upsert cs c, nodup_upsert c, upsert_upsert cs ⟨rfl, rfl, rfl⟩, ?_⟩
  intro earlier last written
  have last_written := written last (by simp)
  exact foldl_upsert earlier cs fun w inside =>
    covers_of_ofWarmup (written w (by simp [inside])) last_written

namespace Crowded

/-- Two entries open the gate, and the first one has been probed. -/
def conditions : List Condition :=
  [{ type := Pod.Key.warmupReady, status := "False", lastProbe := some ⟨"t"⟩ },
    { type := "Ready", status := "True" }, { type := Pod.Key.warmupReady, status := "Unknown" }]

def failed : Condition := Controller.Reason.failedOpen.condition "first" ⟨"u"⟩
def completed : Condition := Controller.Reason.complete.condition "second" ⟨"v"⟩

/-- Two writes leave what the second one alone leaves, and the later duplicate as it was. -/
theorem upsert_changes_one_entry_of_two :
    [failed, completed].foldl upsert conditions =
        { completed with lastProbe := some ⟨"t"⟩ } :: conditions.tail ∧
      (upsert conditions completed)[2]? = conditions[2]? := by
  obtain ⟨upserted, -, -, last⟩ := upsert_changes_one_entry conditions completed
  constructor
  · refine (last [failed] completed fun w inside => ?_).trans (by decide)
    obtain rfl | rfl := List.mem_pair.1 inside
    · exact ⟨_, _, _, rfl⟩
    · exact ⟨_, _, _, rfl⟩
  · exact upserted.kept 2 _ rfl (.inr ⟨0, by decide, _, rfl, rfl⟩)

end Crowded
end WarmupGate.Condition
