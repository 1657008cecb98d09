import WarmupGate.Proofs.Warmup.Signal

/-!
# How scopes end

What a look at a scope shows and what a wait for its end hears, by what has come to it. Both learn
at once that the root's handle was used. That the deadline has passed a look shows to the
nanosecond, and a wait hears of it when the timer fires, which is less than a millisecond later.
Where both have come, a look tells the use of the handle and a wait may tell either. What has come
stays, and one use of a handle more comes to the scopes of its root alone.
-/
namespace WarmupGate.Warmup

theorem Forest.Ending.eq_of_shows {a b : Ending} (same : ∀ cause, a.Shows cause ↔ b.Shows cause) :
    a = b := by
  have canceled := same .canceled
  have deadline := same .deadline
  obtain _ | cause | _ := a
  · obtain _ | other | _ := b
    · rfl
    · exact ((same other).2 rfl).elim
    · exact (canceled.2 trivial).elim
  · obtain _ | other | _ := b
    · exact ((same cause).1 rfl).elim
    · exact congrArg _ ((same other).2 rfl)
    · cases (canceled.2 trivial).symm.trans (deadline.2 trivial)
  · obtain _ | other | _ := b
    · exact (canceled.1 trivial).elim
    · cases (canceled.1 trivial).symm.trans (deadline.1 trivial)
    · rfl

namespace History

variable {h g past later : History} {move : Move} {s : Scope} {cause : Cause}
  {i r k instant : Nat}

theorem FallsOn.lt (falls : FallsOn h i cause instant) : i < h.births.length := by
  cases falls with
  | canceled root _ => exact root.lt.1
  | deadline least =>
    obtain ⟨a, b, timeout, descent, -⟩ := least.1
    exact descent.lt.1

theorem cancelled_iff (there : h.forest.scopes[i]? = some s) :
    h.forest.cancelled s = true ↔ Came h i .canceled := by
  obtain ⟨r, root⟩ := exists_root (lt_of_scope there)
  obtain ⟨g, found, tells⟩ := (signalled h).tells i r s there root
  rw [Forest.cancelled, found]
  refine tells.cancelled.trans ⟨?_, ?_⟩
  · rintro ⟨instant, used⟩
    exact ⟨instant, used.le.2, .canceled root used⟩
  · rintro ⟨instant, -, falls⟩
    cases falls with
    | canceled other used =>
      cases root.unique other
      exact ⟨instant, used⟩

theorem expired_iff (there : h.forest.scopes[i]? = some s) :
    h.forest.expired s = true ↔ Came h i .deadline := by
  have meets := meets_deadline there
  rw [Forest.expired, now_forest]
  cases own : s.deadline with
  | none =>
    rw [own] at meets
    refine iff_of_false Bool.false_ne_true ?_
    rintro ⟨_, -, falls⟩
    cases falls with
    | deadline least => exact Set.notMem_empty _ (meets ▸ least.1)
  | some d =>
    have first : IsLeast (bounds h i) d := by rwa [own] at meets
    refine decide_eq_true_iff.trans ⟨fun due => ⟨_, due, .deadline first⟩, ?_⟩
    rintro ⟨_, due, falls⟩
    cases falls with
    | deadline least => rwa [eq_of_isLeast first least]

theorem HeardAt.lt (heard : HeardAt h i cause instant) : i < h.births.length := by
  cases heard with
  | canceled falls => exact falls.lt
  | deadline falls => exact falls.lt

theorem heard_canceled_iff : Heard h i .canceled ↔ Came h i .canceled := by
  constructor
  · rintro ⟨_, now, heard⟩
    cases heard with
    | canceled falls => exact ⟨_, now, falls⟩
  · rintro ⟨_, now, falls⟩
    exact ⟨_, now, .canceled falls⟩

theorem heard_deadline_iff : Heard h i .deadline ↔
    ∃ d, IsLeast (bounds h i) d ∧ Span.ofMillis d.ceilMillis ≤ ⟨h.elapsed⟩ := by
  simp only [Span.le_iff_nanos]
  constructor
  · rintro ⟨_, now, heard⟩
    cases heard with
    | deadline falls =>
      cases falls with
      | @deadline d least => exact ⟨d, least, now⟩
  · rintro ⟨d, least, now⟩
    exact ⟨_, now, .deadline (.deadline least)⟩

theorem fired_iff (there : h.forest.scopes[i]? = some s) :
    h.forest.fired s = true ↔ Heard h i .deadline := by
  have meets := meets_deadline there
  rw [heard_deadline_iff, Forest.fired, now_forest]
  cases own : s.deadline with
  | none =>
    rw [own] at meets
    have free : bounds h i = ∅ := meets
    simp [free, IsLeast]
  | some d =>
    have first : IsLeast (bounds h i) d := by rwa [own] at meets
    rw [Option.any_some, decide_eq_true_iff]
    constructor
    · exact fun due => ⟨d, first, due⟩
    · rintro ⟨e, least, due⟩
      rwa [eq_of_isLeast first least]

/-- A wait is over exactly when it hears of a cause, and tells one that it has heard of. -/
theorem shows_iff : (h.poll i).Shows cause ↔ Heard h i cause := by
  cases there : h.forest.scopes[i]? with
  | none =>
    have absent : ¬ i < h.births.length := by
      rw [← length_scopes]
      exact Nat.not_lt_of_le (List.getElem?_eq_none_iff.1 there)
    rw [poll, there]
    exact iff_of_false id fun ⟨_, _, heard⟩ => absent heard.lt
  | some s =>
    have canceled := (cancelled_iff there).trans heard_canceled_iff.symm
    have deadline := fired_iff there
    rw [poll, there]
    show (h.forest.ending s).Shows cause ↔ _
    unfold Forest.ending
    cases c : h.forest.cancelled s <;> cases e : h.forest.fired s <;> cases cause <;>
      simp_all [Forest.Ending.Shows]

theorem poll_eq_pending_iff : h.poll i = .pending ↔ ∀ cause, ¬ Heard h i cause := by
  simp only [← shows_iff]
  generalize h.poll i = shown
  obtain _ | cause | _ := shown
  · exact iff_of_true rfl fun _ => id
  · exact iff_of_false nofun fun none => none cause rfl
  · exact iff_of_false nofun fun none => none .canceled trivial

theorem cause?_cases (h : History) (i : Nat) :
    (h.cause? i = none ∧ (∀ cause, ¬ Came h i cause)) ∨
      (h.cause? i = some .canceled ∧ Came h i .canceled) ∨
      (h.cause? i = some .deadline ∧ ¬ Came h i .canceled ∧ Came h i .deadline) := by
  cases there : h.forest.scopes[i]? with
  | none =>
    have absent : ¬ i < h.births.length := by
      rw [← length_scopes]
      exact Nat.not_lt_of_le (List.getElem?_eq_none_iff.1 there)
    refine .inl ⟨?_, fun cause ⟨_, _, falls⟩ => absent falls.lt⟩
    rw [cause?, there]
    rfl
  | some s =>
    rw [cause?, there, Option.bind_some, Forest.err, ← cancelled_iff there, ← expired_iff there]
    by_cases used : h.forest.cancelled s = true
    · exact .inr (.inl ⟨if_pos used, used⟩)
    · by_cases past : h.forest.expired s = true
      · exact .inr (.inr ⟨by rw [if_neg used, if_pos past], used, past⟩)
      · refine .inl ⟨by rw [if_neg used, if_neg past], fun cause came => ?_⟩
        cases cause with
        | canceled => exact used ((cancelled_iff there).2 came)
        | deadline => exact past ((expired_iff there).2 came)

theorem cause?_eq_none_iff : h.cause? i = none ↔ ∀ cause, ¬ Came h i cause := by
  obtain ⟨shown, none⟩ | ⟨shown, came⟩ | ⟨shown, -, came⟩ := cause?_cases h i
  · exact iff_of_true shown none
  · exact iff_of_false (by simp [shown]) fun none => none _ came
  · exact iff_of_false (by simp [shown]) fun none => none _ came

theorem cause?_eq_canceled_iff : h.cause? i = some .canceled ↔ Came h i .canceled := by
  obtain ⟨shown, none⟩ | ⟨shown, came⟩ | ⟨shown, unused, -⟩ := cause?_cases h i
  · exact iff_of_false (by simp [shown]) (none _)
  · exact iff_of_true shown came
  · exact iff_of_false (by simp [shown]) unused

theorem cause?_eq_deadline_iff :
    h.cause? i = some .deadline ↔ ¬ Came h i .canceled ∧ Came h i .deadline := by
  obtain ⟨shown, none⟩ | ⟨shown, came⟩ | ⟨shown, come⟩ := cause?_cases h i
  · exact iff_of_false (by simp [shown]) fun come => none _ come.2
  · exact iff_of_false (by simp [shown]) fun come => come.1 came
  · exact iff_of_true shown come

/-- What has come decides what a look shows, and what can be heard decides what a wait tells. -/
theorem cause?_congr (same : ∀ cause, Came g i cause ↔ Came h i cause) :
    g.cause? i = h.cause? i := by
  obtain ⟨shown, none⟩ | ⟨shown, came⟩ | ⟨shown, come⟩ := cause?_cases h i
  · rw [shown, cause?_eq_none_iff]
    exact fun cause came => none cause ((same cause).1 came)
  · rw [shown, cause?_eq_canceled_iff, same]
    exact came
  · rw [shown, cause?_eq_deadline_iff, same, same]
    exact come

theorem poll_congr (same : ∀ cause, Heard g i cause ↔ Heard h i cause) : g.poll i = h.poll i :=
  Forest.Ending.eq_of_shows fun cause => shows_iff.trans ((same cause).trans shows_iff.symm)

theorem came_deadline_iff :
    Came h i .deadline ↔ ∃ d, h.deadline? i = some d ∧ d ≤ ⟨h.elapsed⟩ := by
  constructor
  · rintro ⟨_, now, falls⟩
    have meets := meets_deadline? falls.lt
    cases falls with
    | @deadline d least => exact ⟨d, meets.unique least, now⟩
  · rintro ⟨d, own, due⟩
    by_cases there : i < h.births.length
    · have meets := meets_deadline? there
      rw [own] at meets
      exact ⟨_, due, .deadline meets⟩
    · cases (deadline?_eq_none there).symm.trans own

theorem came_canceled_iff : Came h i .canceled ↔ ∃ r instant, Root h i r ∧ UsedAt h r instant := by
  constructor
  · rintro ⟨instant, -, falls⟩
    cases falls with
    | @canceled r _ root used => exact ⟨r, instant, root, used⟩
  · rintro ⟨r, instant, root, used⟩
    exact ⟨instant, used.le.2, .canceled root used⟩

/-- Nothing that happens changes when what was there ends, but the use of its handle. -/
theorem fallsOn_cons (there : i < past.births.length) :
    FallsOn (move :: past) i cause instant ↔ FallsOn past i cause instant ∨
      cause = .canceled ∧ instant = past.elapsed ∧
        ∃ k r, move = .cancel k ∧ Root past i r ∧ Root past k r ∧ Held past r := by
  constructor
  · intro falls
    cases falls with
    | canceled root used =>
      rw [root_cons there] at root
      obtain ⟨k, rfl, hit, held, rfl⟩ | before := usedAt_cons.1 used
      · exact .inr ⟨rfl, rfl, k, _, rfl, root, hit, held⟩
      · exact .inl (.canceled root before)
    | deadline least => exact .inl (.deadline (bounds_cons there ▸ least))
  · rintro (falls | ⟨rfl, rfl, k, r, rfl, root, hit, held⟩)
    · cases falls with
      | canceled root used => exact .canceled ((root_cons there).2 root) (usedAt_cons.2 (.inr used))
      | deadline least => exact .deadline ((bounds_cons there).symm ▸ least)
    · exact .canceled ((root_cons there).2 root) (usedAt_cons.2 (.inl ⟨k, rfl, hit, held, rfl⟩))

theorem FallsOn.append (falls : FallsOn past i cause instant) (later : History) :
    FallsOn (later ++ past) i cause instant := by
  induction later with
  | nil => exact falls
  | cons move later ih => exact (fallsOn_cons ih.lt).2 (.inl ih)

theorem Came.append (came : Came past i cause) (later : History) :
    Came (later ++ past) i cause := by
  obtain ⟨instant, now, falls⟩ := came
  exact ⟨instant, Nat.le_trans now (elapsed_le later past), falls.append later⟩

theorem cause?_ne_none_append (ended : past.cause? i ≠ none) (later : History) :
    (later ++ past : History).cause? i ≠ none := by
  rw [Ne, cause?_eq_none_iff, not_forall_not] at ended ⊢
  exact ended.imp fun _ came => came.append later

theorem births_insert (k : Nat) (later past : History) :
    (later ++ .cancel k :: past : History).births = (later ++ past : History).births ∧
      (later ++ .cancel k :: past : History).elapsed = (later ++ past : History).elapsed := by
  induction later with
  | nil => exact ⟨List.append_nil _, rfl⟩
  | cons move later ih =>
    obtain ⟨births, elapsed⟩ := ih
    rw [List.cons_append, List.cons_append, births_cons, births_cons, births, elapsed]
    refine ⟨rfl, ?_⟩
    cases move with
    | advance nanos => exact congrArg (· + nanos) elapsed
    | _ => exact elapsed

theorem dropped_insert (k : Nat) (later past : History) :
    Dropped (later ++ .cancel k :: past) r ↔ Dropped (later ++ past) r := by
  induction later with
  | nil =>
    refine dropped_cons.trans (or_iff_right ?_)
    rintro ⟨_, same, -⟩
    cases same
  | cons move later ih =>
    rw [List.cons_append, List.cons_append, dropped_cons, dropped_cons, ih]
    simp only [root_congr (births_insert k later past).1]

theorem held_insert (k : Nat) (later past : History) :
    Held (later ++ .cancel k :: past) r ↔ Held (later ++ past) r := by
  rw [Held, Held, (births_insert k later past).1, dropped_insert]

theorem usedAt_insert (k : Nat) (later past : History) :
    UsedAt (later ++ .cancel k :: past) r instant ↔ UsedAt (later ++ past) r instant ∨
      Root past k r ∧ Held past r ∧ past.elapsed = instant := by
  induction later with
  | nil =>
    refine usedAt_cons.trans (or_comm.trans (or_congr_right ?_))
    simp
  | cons move later ih =>
    obtain ⟨births, elapsed⟩ := births_insert k later past
    rw [List.cons_append, List.cons_append, usedAt_cons, usedAt_cons, ih, or_assoc]
    simp only [root_congr births, held_insert, elapsed]

theorem bounds_insert (k : Nat) (later past : History) (i : Nat) :
    bounds (later ++ .cancel k :: past) i = bounds (later ++ past) i := by
  have births := (births_insert k later past).1
  unfold bounds
  simp only [descends_congr births, births]

/-- One use of a handle more falls on those who descend from its root, and nothing else does. -/
theorem fallsOn_insert (k : Nat) (later past : History) :
    FallsOn (later ++ .cancel k :: past) i cause instant ↔
      FallsOn (later ++ past) i cause instant ∨
        cause = .canceled ∧ instant = past.elapsed ∧
          ∃ r, Root past k r ∧ Held past r ∧ Root (later ++ past) i r := by
  obtain ⟨births, -⟩ := births_insert k later past
  constructor
  · intro falls
    cases falls with
    | canceled root used =>
      rw [root_congr births] at root
      obtain before | ⟨hit, held, rfl⟩ := (usedAt_insert k later past).1 used
      · exact .inl (.canceled root before)
      · exact .inr ⟨rfl, rfl, _, hit, held, root⟩
    | deadline least => exact .inl (.deadline (bounds_insert k later past i ▸ least))
  · rintro (falls | ⟨rfl, rfl, r, hit, held, root⟩)
    · cases falls with
      | canceled root used =>
        exact .canceled ((root_congr births).2 root) ((usedAt_insert k later past).2 (.inl used))
      | deadline least => exact .deadline ((bounds_insert k later past i).symm ▸ least)
    · exact .canceled ((root_congr births).2 root)
        ((usedAt_insert k later past).2 (.inr ⟨hit, held, rfl⟩))

theorem came_insert (k : Nat) (later past : History) :
    Came (later ++ .cancel k :: past) i cause ↔ Came (later ++ past) i cause ∨
      cause = .canceled ∧ ∃ r, Root past k r ∧ Held past r ∧ Root (later ++ past) i r := by
  obtain ⟨-, elapsed⟩ := births_insert k later past
  simp only [Came, fallsOn_insert, elapsed]
  constructor
  · rintro ⟨instant, now, falls | ⟨rfl, -, hit⟩⟩
    · exact .inl ⟨instant, now, falls⟩
    · exact .inr ⟨rfl, hit⟩
  · rintro (⟨instant, now, falls⟩ | ⟨rfl, hit⟩)
    · exact ⟨instant, now, .inl falls⟩
    · exact ⟨_, elapsed_le later past, .inr ⟨rfl, rfl, hit⟩⟩

theorem heard_insert (k : Nat) (later past : History) :
    Heard (later ++ .cancel k :: past) i cause ↔ Heard (later ++ past) i cause ∨
      cause = .canceled ∧ ∃ r, Root past k r ∧ Held past r ∧ Root (later ++ past) i r := by
  cases cause with
  | canceled => rw [heard_canceled_iff, heard_canceled_iff, came_insert]
  | deadline =>
    obtain ⟨-, elapsed⟩ := births_insert k later past
    simp only [heard_deadline_iff, bounds_insert, elapsed, reduceCtorEq, false_and, or_false]

end History
end WarmupGate.Warmup
