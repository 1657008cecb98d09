import WarmupGate.Proofs.Warmup.Descent
import WarmupGate.Proofs.Warmup.Prompt

/-!
# The forest keeps the record

A forest has the scopes that are on record and its clock shows the nanoseconds that have passed.
The deadline of a scope is the least of its bounds, though it is kept as the earlier of two instants
at a time and only the parent's is looked at.
-/
namespace WarmupGate.Warmup

namespace Forest

def made (f : Forest) : Move → Option Scope
  | .background => some ⟨f.signals.length, none⟩
  | .withCancel => some ⟨f.signals.length, none⟩
  | .withTimeout parent timeout => (f.scopes[parent]?).map fun s =>
      ⟨s.root, some (earlier s.deadline ⟨f.now.nanos + timeout.nanos⟩)⟩
  | .clone original => f.scopes[original]?
  | .cancel _ => none
  | .dropHandle _ => none
  | .advance _ => none

theorem modifySignal_eq (f : Forest) (k : Nat) (change : Signal → Signal) :
    f.modifySignal k change =
      { f with
        signals := (f.scopes[k]?).elim f.signals fun s => f.signals.modify s.root change } := by
  unfold modifySignal
  cases f.scopes[k]? <;> rfl

theorem scopes_perform (f : Forest) (move : Move) :
    (f.perform move).scopes = f.scopes ++ (f.made move).toList := by
  cases move with
  | background => rfl
  | withCancel => rfl
  | withTimeout parent timeout =>
    unfold perform withTimeout made
    cases there : f.scopes[parent]? <;> simp [there]
  | clone original =>
    unfold perform Forest.clone made
    cases there : f.scopes[original]? <;> simp [there]
  | cancel k => simp [perform, cancel, modifySignal_eq, made]
  | dropHandle k => simp [perform, dropHandle, modifySignal_eq, made]
  | advance nanos => simp [perform, advance, made]

theorem clock_perform (f : Forest) {move : Move} (still : ∀ nanos, move ≠ .advance nanos) :
    (f.perform move).clock = f.clock := by
  cases move with
  | background => rfl
  | withCancel => rfl
  | withTimeout parent timeout =>
    cases there : f.scopes[parent]? <;> simp [perform, withTimeout, there]
  | clone original =>
    cases there : f.scopes[original]? <;> simp [perform, Forest.clone, there]
  | cancel k => simp [perform, cancel, modifySignal_eq]
  | dropHandle k => simp [perform, dropHandle, modifySignal_eq]
  | advance nanos => exact absurd rfl (still nanos)

end Forest

namespace History

variable {h g past later : History} {move : Move} {b : Birth} {s t : Scope}
  {i j a p r k : Nat}

theorem elapsed_cons (still : ∀ nanos, move ≠ .advance nanos) :
    elapsed (move :: past) = past.elapsed := by
  cases move with
  | advance nanos => exact absurd rfl (still nanos)
  | _ => rfl

theorem scopes_forest (move : Move) (past : History) : (forest (move :: past)).scopes =
    past.forest.scopes ++ (past.forest.made move).toList :=
  Forest.scopes_perform _ _

theorem clock_forest (h : History) : h.forest.clock = h.elapsed := by
  induction h with
  | nil => rfl
  | cons move past ih =>
    by_cases passes : ∃ nanos, move = .advance nanos
    · obtain ⟨nanos, rfl⟩ := passes
      exact congrArg (· + nanos) ih
    · rw [not_exists] at passes
      rw [elapsed_cons passes, forest, Forest.clock_perform _ passes, ih]

theorem now_forest (h : History) : h.forest.now = ⟨h.elapsed⟩ := by
  rw [Forest.now, clock_forest]

/-- A scope is made exactly if one is put on record. -/
theorem isSome_born (f : Forest) (instant : Nat) (move : Move) :
    (born f.scopes.length instant move).isSome = (f.made move).isSome := by
  cases move with
  | withTimeout parent timeout =>
    by_cases below : parent < f.scopes.length <;> simp [born, Forest.made, below]
  | clone original =>
    by_cases below : original < f.scopes.length <;> simp [born, Forest.made, below]
  | _ => rfl

theorem length_scopes (h : History) : h.forest.scopes.length = h.births.length := by
  induction h with
  | nil => rfl
  | cons move past ih =>
    have both := isSome_born (forest past) (elapsed past) move
    rw [ih] at both
    rw [scopes_forest, births_cons, List.length_append, List.length_append, ih]
    cases made : (forest past).made move <;>
      cases born : born (births past).length (elapsed past) move <;> simp_all

theorem exists_scope (there : i < h.births.length) : ∃ s, h.forest.scopes[i]? = some s :=
  ⟨_, List.getElem?_eq_getElem (length_scopes h ▸ there)⟩

theorem lt_of_scope (there : h.forest.scopes[i]? = some s) : i < h.births.length := by
  rw [← length_scopes]
  exact (List.getElem?_eq_some_iff.1 there).1

theorem scope_cases (there : (forest (move :: past)).scopes[i]? = some s) :
    (i < past.births.length ∧ past.forest.scopes[i]? = some s) ∨
      (i = past.births.length ∧ past.forest.made move = some s ∧
        ∃ b, born past.births.length past.elapsed move = some b) := by
  have old := length_scopes past
  obtain earlier | ⟨rfl, b, born⟩ := lt_or_new (lt_of_scope there)
  · rw [scopes_forest, List.getElem?_append_left (old ▸ earlier)] at there
    exact .inl ⟨earlier, there⟩
  · rw [scopes_forest, List.getElem?_append_right (Nat.le_of_eq old), old, Nat.sub_self] at there
    refine .inr ⟨rfl, ?_, b, born⟩
    cases made : past.forest.made move <;> simp_all

theorem eq_of_isLeast {instants : Set Span} {d e : Span} (first : IsLeast instants d)
    (second : IsLeast instants e) : d = e :=
  congrArg Span.mk (Nat.le_antisymm (first.2 second.1) (second.2 first.1))

/-- A deadline is the least of some instants; without any there is none. -/
def Meets : Option Span → Set Span → Prop
  | none, instants => instants = ∅
  | some d, instants => IsLeast instants d

theorem Meets.earlier {deadline : Option Span} {instants : Set Span}
    (meets : Meets deadline instants) (own : Span) :
    IsLeast {d | d = own ∨ d ∈ instants} (Forest.earlier deadline own) := by
  cases deadline with
  | none =>
    obtain rfl : instants = ∅ := meets
    exact ⟨.inl rfl, fun d inside => inside.elim (fun same => same ▸ Nat.le_refl _) nofun⟩
  | some first =>
    obtain ⟨member, least⟩ := meets
    show IsLeast _ (if first < own then first else own)
    split
    · rename_i sooner
      refine ⟨.inr member, fun d inside => ?_⟩
      obtain rfl | inside := inside
      · exact Nat.le_of_lt sooner
      · exact least inside
    · rename_i later
      refine ⟨.inl rfl, fun d inside => ?_⟩
      obtain rfl | inside := inside
      · exact Nat.le_refl _
      · exact Nat.le_trans (Nat.le_of_not_lt later) (least inside)

theorem meets_new
    (before : ∀ p s, past.forest.scopes[p]? = some s → Meets s.deadline (bounds past p))
    (made : past.forest.made move = some s)
    (recorded : born past.births.length past.elapsed move = some b) :
    Meets s.deadline (bounds (move :: past) past.births.length) := by
  have inside := fun d => mem_bounds_new recorded (d := d)
  cases born_cases recorded with
  | background =>
    cases made
    exact Set.eq_empty_iff_forall_notMem.2 fun d member => by simpa using (inside d).1 member
  | withCancel =>
    cases made
    exact Set.eq_empty_iff_forall_notMem.2 fun d member => by simpa using (inside d).1 member
  | @withTimeout parent timeout below =>
    obtain ⟨p, there, rfl⟩ := Option.map_eq_some_iff.1 made
    have set : bounds (.withTimeout parent timeout :: past) past.births.length =
        {d | d = ⟨past.forest.now.nanos + timeout.nanos⟩ ∨ d ∈ bounds past parent} := by
      ext ⟨nanos⟩
      rw [inside, now_forest]
      simp
    show Meets (some _) _
    rw [set]
    exact (before parent p there).earlier _
  | @clone original below =>
    have set : bounds (.clone original :: past) past.births.length = bounds past original := by
      ext d
      rw [inside]
      simp
    rw [set]
    exact before original s made

theorem meets_deadline (there : h.forest.scopes[i]? = some s) : Meets s.deadline (bounds h i) := by
  induction h generalizing i s with
  | nil => cases there
  | cons move past ih =>
    obtain ⟨old, there⟩ | ⟨rfl, made, b, recorded⟩ := scope_cases there
    · rw [bounds_cons old]
      exact ih there
    · exact meets_new (fun p s there => ih there) made recorded

theorem meets_deadline? (there : i < h.births.length) : Meets (h.deadline? i) (bounds h i) := by
  obtain ⟨s, found⟩ := exists_scope there
  rw [deadline?, found]
  exact meets_deadline found

theorem deadline?_eq_none (absent : ¬ i < h.births.length) : h.deadline? i = none := by
  rw [deadline?, List.getElem?_eq_none (Nat.le_of_not_lt (length_scopes h ▸ absent))]
  rfl

theorem Meets.unique {d e : Option Span} {instants : Set Span} (first : Meets d instants)
    (second : Meets e instants) : d = e := by
  cases d with
  | none =>
    cases e with
    | none => rfl
    | some e => exact absurd (first ▸ second.1) (Set.notMem_empty e)
  | some d =>
    cases e with
    | none => exact absurd (second ▸ first.1) (Set.notMem_empty d)
    | some e => exact congrArg some (eq_of_isLeast first second)

end History
end WarmupGate.Warmup
