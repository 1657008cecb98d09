import WarmupGate.Proofs.Warmup.Forest

/-!
# Signals keep the record

Every root has a signal of its own, which all scopes that come from it see. The signal tells
whether the root's handle is still held and whether it has been used.
-/
namespace WarmupGate.Warmup

namespace Forest

variable {f : Forest} {s t : Scope} {g : Signal} {k : Nat}

theorem modifySignal_signal (there : f.scopes[k]? = some t) (found : f.signals[s.root]? = some g)
    (change : Signal → Signal) : (f.modifySignal k change).signals[s.root]? =
      some (if t.root = s.root then change g else g) := by
  rw [modifySignal_eq, there]
  by_cases same : t.root = s.root <;> simp [found, same]

theorem modifySignal_none (absent : f.scopes[k]? = none) (change : Signal → Signal) :
    f.modifySignal k change = f := by
  rw [modifySignal_eq, absent]
  rfl

theorem signals_withTimeout (f : Forest) (parent : Nat) (timeout : Span) :
    (f.withTimeout parent timeout).signals = f.signals := by
  unfold withTimeout
  split <;> rfl

theorem signals_clone (f : Forest) (original : Nat) : (f.clone original).signals = f.signals := by
  unfold Forest.clone
  split <;> rfl

end Forest

namespace History

variable {h past : History} {move : Move} {b : Birth} {s t : Scope} {g : Signal}
  {i j p r k : Nat}

/-- The signal tells what became of a root's handle. -/
structure Tells (h : History) (r : Nat) (g : Signal) : Prop where
  held : g.held = true ↔ Held h r
  cancelled : g.cancelled = true ↔ ∃ instant, UsedAt h r instant

theorem tells_new (made : born past.births.length past.elapsed move = some b) :
    Tells (move :: past) past.births.length ⟨b.handle, false⟩ where
  held := (held_new made).symm
  cancelled := by simp [not_usedAt_new]

theorem Tells.other (h : Tells past r g) (there : r < past.births.length)
    (kept : ∀ k, move = .cancel k ∨ move = .dropHandle k → ¬ Root past k r) :
    Tells (move :: past) r g where
  held := by
    rw [held_cons there, h.held]
    exact (and_iff_left fun k same => kept k (.inr same)).symm
  cancelled := by
    simp only [usedAt_cons, h.cancelled]
    refine exists_congr fun instant => (or_iff_right ?_).symm
    rintro ⟨k, same, root, -⟩
    exact kept k (.inl same) root

theorem Tells.cancel (h : Tells past r g) (root : Root past k r) :
    Tells (.cancel k :: past) r { g with cancelled := g.cancelled || g.held } where
  held := by
    rw [held_cons root.lt.2, h.held]
    exact (and_iff_left nofun).symm
  cancelled := by
    rw [Bool.or_eq_true, h.cancelled, h.held]
    simp only [usedAt_cons, exists_or]
    refine or_comm.trans (or_congr_left ⟨fun held => ⟨_, k, rfl, root, held, rfl⟩, ?_⟩)
    rintro ⟨instant, k, -, -, held, -⟩
    exact held

theorem Tells.dropHandle (h : Tells past r g) (root : Root past k r) :
    Tells (.dropHandle k :: past) r { g with held := false } where
  held := by
    rw [held_cons root.lt.2]
    exact ⟨nofun, fun ⟨_, kept⟩ => absurd root (kept k rfl)⟩
  cancelled := by
    simp only [usedAt_cons]
    refine h.cancelled.trans (exists_congr fun instant => (or_iff_right ?_).symm)
    rintro ⟨k, same, -⟩
    cases same

/-- Scopes see one signal exactly if they come from one root, and it is that root's. -/
structure Signalled (h : History) : Prop where
  same : ∀ (i j r : Nat) (s t : Scope), h.forest.scopes[i]? = some s →
    h.forest.scopes[j]? = some t → Root h i r → (t.root = s.root ↔ Root h j r)
  tells : ∀ (i r : Nat) (s : Scope), h.forest.scopes[i]? = some s → Root h i r →
    ∃ g, h.forest.signals[s.root]? = some g ∧ Tells h r g

theorem Signalled.lt (inv : Signalled h) (there : h.forest.scopes[i]? = some s) :
    s.root < h.forest.signals.length := by
  obtain ⟨r, root⟩ := exists_root (lt_of_scope there)
  obtain ⟨g, found, -⟩ := inv.tells i r s there root
  exact (List.getElem?_eq_some_iff.1 found).1

theorem signals_root (made : born past.births.length past.elapsed move = some b)
    (top : b.parent = none) :
    (forest (move :: past)).signals = past.forest.signals ++ [⟨b.handle, false⟩] ∧
      past.forest.made move = some ⟨past.forest.signals.length, none⟩ := by
  cases born_cases made with
  | background => exact ⟨rfl, rfl⟩
  | withCancel => exact ⟨rfl, rfl⟩
  | withTimeout => cases top
  | clone => cases top

theorem signal_child (made : born past.births.length past.elapsed move = some b)
    (child : b.parent = some p) (new : past.forest.made move = some s) :
    ∃ t, past.forest.scopes[p]? = some t ∧ t.root = s.root := by
  cases born_cases made with
  | background => cases child
  | withCancel => cases child
  | withTimeout =>
    cases child
    obtain ⟨t, there, rfl⟩ := Option.map_eq_some_iff.1 new
    exact ⟨t, there, rfl⟩
  | clone =>
    cases child
    exact ⟨s, new, rfl⟩

/-- Where no root is made, a scope sees the signal of a scope that was there before, and comes from
the same root. -/
theorem exists_elder (derived : ∀ b, born past.births.length past.elapsed move = some b →
      b.parent ≠ none) (there : (forest (move :: past)).scopes[i]? = some s) :
    ∃ j t, past.forest.scopes[j]? = some t ∧ t.root = s.root ∧
      ∀ r, Root (move :: past) i r ↔ Root past j r := by
  obtain ⟨old, there⟩ | ⟨rfl, new, b, made⟩ := scope_cases there
  · exact ⟨i, s, there, rfl, fun r => root_cons old⟩
  · obtain ⟨p, child⟩ := Option.ne_none_iff_exists'.1 (derived b made)
    obtain ⟨t, there, same⟩ := signal_child made child new
    refine ⟨p, t, there, same, fun r => ?_⟩
    rw [root_new made, child]
    simp

theorem Signalled.touched (inv : Signalled past) (there : past.forest.scopes[i]? = some s)
    (found : past.forest.signals[s.root]? = some g) (root : Root past i r) (hit : Root past k r)
    (change : Signal → Signal) :
    (past.forest.modifySignal k change).signals[s.root]? = some (change g) := by
  obtain ⟨t, named⟩ := exists_scope hit.lt.1
  rw [Forest.modifySignal_signal named found, if_pos ((inv.same i k r s t there named root).2 hit)]

theorem Signalled.untouched (inv : Signalled past) (there : past.forest.scopes[i]? = some s)
    (found : past.forest.signals[s.root]? = some g) (root : Root past i r)
    (miss : ¬ Root past k r) (change : Signal → Signal) :
    (past.forest.modifySignal k change).signals[s.root]? = some g := by
  cases named : past.forest.scopes[k]? with
  | none => rwa [Forest.modifySignal_none named]
  | some t =>
    have apart : t.root ≠ s.root := fun same => miss ((inv.same i k r s t there named root).1 same)
    rw [Forest.modifySignal_signal named found, if_neg apart]

/-- After any move the signals of the roots that were there tell what became of their handles. -/
theorem Signalled.tells_cons (inv : Signalled past) (move : Move)
    (there : past.forest.scopes[i]? = some s) (root : Root past i r) :
    ∃ g, (forest (move :: past)).signals[s.root]? = some g ∧ Tells (move :: past) r g := by
  obtain ⟨g, found, tells⟩ := inv.tells i r s there root
  have kept : (∀ k, move = .cancel k ∨ move = .dropHandle k → ¬ Root past k r) →
      Tells (move :: past) r g := tells.other root.lt.2
  have below := inv.lt there
  cases move with
  | background =>
    exact ⟨g, (List.getElem?_append_left below).trans found, kept (by simp)⟩
  | withCancel =>
    exact ⟨g, (List.getElem?_append_left below).trans found, kept (by simp)⟩
  | withTimeout parent timeout =>
    exact ⟨g, by rwa [forest, Forest.perform, Forest.signals_withTimeout], kept (by simp)⟩
  | clone original =>
    exact ⟨g, by rwa [forest, Forest.perform, Forest.signals_clone], kept (by simp)⟩
  | advance nanos => exact ⟨g, found, kept (by simp)⟩
  | cancel k =>
    by_cases hit : Root past k r
    · exact ⟨_, inv.touched there found root hit _, tells.cancel hit⟩
    · exact ⟨g, inv.untouched there found root hit _, kept (by simpa using hit)⟩
  | dropHandle k =>
    by_cases hit : Root past k r
    · exact ⟨_, inv.touched there found root hit _, tells.dropHandle hit⟩
    · exact ⟨g, inv.untouched there found root hit _, kept (by simpa using hit)⟩

theorem Signalled.root (inv : Signalled past)
    (made : born past.births.length past.elapsed move = some b) (top : b.parent = none) :
    Signalled (move :: past) := by
  obtain ⟨signals, new⟩ := signals_root made top
  have own : Root (move :: past) past.births.length past.births.length :=
    (root_new made).2 (.inl ⟨top, rfl⟩)
  constructor
  · intro i j r s t thereI thereJ root
    obtain ⟨oldI, thereI⟩ | ⟨rfl, madeI, -⟩ := scope_cases thereI <;>
      obtain ⟨oldJ, thereJ⟩ | ⟨rfl, madeJ, -⟩ := scope_cases thereJ
    · rw [root_cons oldI] at root
      rw [root_cons oldJ]
      exact inv.same i j r s t thereI thereJ root
    -- An older scope has an older signal, and the new root is not among its ancestors.
    · cases new.symm.trans madeJ
      rw [root_cons oldI] at root
      refine iff_of_false (inv.lt thereI).ne' fun other => ?_
      cases other.unique own
      exact absurd root.lt.2 (Nat.lt_irrefl _)
    · cases new.symm.trans madeI
      cases root.unique own
      rw [root_cons oldJ]
      exact iff_of_false (inv.lt thereJ).ne fun other => absurd other.lt.2 (Nat.lt_irrefl _)
    · cases new.symm.trans madeI
      cases new.symm.trans madeJ
      exact iff_of_true rfl root
  · intro i r s there root
    obtain ⟨old, there⟩ | ⟨rfl, made', -⟩ := scope_cases there
    · exact inv.tells_cons move there ((root_cons old).1 root)
    · cases new.symm.trans made'
      cases root.unique own
      rw [signals]
      exact ⟨_, List.getElem?_concat_length, tells_new made⟩

theorem Signalled.derived (inv : Signalled past)
    (derived : ∀ b, born past.births.length past.elapsed move = some b → b.parent ≠ none) :
    Signalled (move :: past) := by
  constructor
  · intro i j r s t thereI thereJ root
    obtain ⟨i', s', thereI, rootI, sameI⟩ := exists_elder derived thereI
    obtain ⟨j', t', thereJ, rootJ, sameJ⟩ := exists_elder derived thereJ
    rw [← rootI, ← rootJ, sameJ]
    exact inv.same i' j' r s' t' thereI thereJ ((sameI r).1 root)
  · intro i r s there root
    obtain ⟨j, t, there, same, roots⟩ := exists_elder derived there
    rw [← same]
    exact inv.tells_cons move there ((roots r).1 root)

theorem signalled (h : History) : Signalled h := by
  induction h with
  | nil => exact ⟨nofun, nofun⟩
  | cons move past ih =>
    -- Only a move that makes a root adds a signal; after any other, elder scopes stand for all.
    by_cases derived : ∀ b, born (births past).length (elapsed past) move = some b → b.parent ≠ none
    · exact ih.derived derived
    · push Not at derived
      obtain ⟨b, made, top⟩ := derived
      exact ih.root made top

end History
end WarmupGate.Warmup
