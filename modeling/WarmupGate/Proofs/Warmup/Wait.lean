import WarmupGate.Proofs.Warmup.Ending

/-!
# Waits for the end of scopes

A wait that begins while its scope is not over is over as soon as the end of the scope can be heard,
and tells the cause that was heard first. A use of the handle is heard at once, a deadline in the
first whole millisecond that is not earlier: where the handle is used in between, the wait tells of
the handle, though the deadline came first. It is taken for granted that no time passes while a wait
can be over: whatever runs, runs in no time. The clock may skip instants; then a wait is over in the
first one that the clock shows.
-/
namespace WarmupGate.Warmup

variable {h past begun later : History} {move : Move} {w v : Wait} {cause : Cause}
  {i r k instant moment : Nat}

namespace History

/-- The clock showed an instant when this was all that had been done. -/
def Shown (h : History) (instant : Nat) (past : History) : Prop :=
  past <:+ h ∧ past.elapsed = instant

/-- The first instant that the clock showed in which a cause could be heard. -/
def Arrives (h : History) (i : Nat) (cause : Cause) (instant : Nat) : Prop :=
  IsLeast {t | ∃ past, Shown h t past ∧ Heard past i cause} instant

/-- The clock showed each instant in which something can be heard of a scope. -/
def Unskipped (h : History) (i : Nat) : Prop :=
  ∀ cause instant, HeardAt h i cause instant → instant ≤ h.elapsed →
    ∃ past, Shown h instant past

end History

open History

/-- A wait is over in the first instant in which the end of its scope is heard, and tells what was
heard first. -/
structure Wait.Punctual (i : Nat) (w : Wait) : Prop where
  /-- A wait that still goes on has missed nothing. -/
  waiting : w.outcome = none → ∀ instant < w.history.elapsed, ∀ past cause,
    Shown w.history instant past → ¬ Heard past i cause
  /-- It can be over now if anything is heard, and no time passes before it is. -/
  wakes : w.outcome = none → ∀ cause, Heard w.history i cause →
    Wait.Step i w { w with outcome := some (w.history.elapsed, cause) } ∧
      ∀ v, Wait.Step i w v → v.history.elapsed = w.history.elapsed
  /-- It was over in the first instant in which anything was heard. -/
  first : ∀ instant cause, w.outcome = some (instant, cause) →
    IsLeast {t | ∃ past cause, Shown w.history t past ∧ Heard past i cause} instant
  /-- Its cause was heard by then, and no other had been heard earlier. -/
  cause : ∀ instant cause, w.outcome = some (instant, cause) → Arrives w.history i cause instant ∧
    ∀ other moment, Arrives w.history i other moment → instant ≤ moment
  /-- The scope was over by then. -/
  finished : ∀ instant cause, w.outcome = some (instant, cause) →
    ∃ past, Shown w.history instant past ∧ past.cause? i ≠ none
  /-- If the clock skipped nothing that is heard of the scope, that was just when its cause is
  heard, and less than a millisecond after anything fell on the scope. -/
  exact : ∀ instant cause, w.outcome = some (instant, cause) → Unskipped w.history i →
    HeardAt w.history i cause instant ∧
      (∀ other moment, HeardAt w.history i other moment → instant ≤ moment) ∧
      ∀ other moment, FallsOn w.history i other moment → instant < moment + 1000000

theorem History.HeardAt.le_of_fallsOn (falls : FallsOn h i cause moment) :
    ∃ instant, HeardAt h i cause instant ∧ moment ≤ instant ∧ instant < moment + 1000000 := by
  cases cause with
  | canceled => exact ⟨moment, .canceled falls, Nat.le_refl _, by omega⟩
  | deadline =>
    refine ⟨_, .deadline falls, ?_, ?_⟩ <;> simp only [Span.ofMillis, Span.ceilMillis] <;> omega

theorem lt_of_live (live : h.cause? i = none) (heard : HeardAt h i cause instant) :
    h.elapsed < instant := by
  have after {cause moment} (falls : FallsOn h i cause moment) : h.elapsed < moment :=
    Nat.lt_of_not_le fun now => cause?_eq_none_iff.1 live cause ⟨moment, now, falls⟩
  cases heard with
  | canceled falls => exact after falls
  | deadline falls => exact Nat.lt_of_lt_of_le (after falls) (Span.le_ceilMillis _)

theorem lt_of_pending (pending : h.poll i = .pending) (heard : HeardAt h i cause instant) :
    h.elapsed < instant :=
  Nat.lt_of_not_le fun now => poll_eq_pending_iff.1 pending cause ⟨instant, now, heard⟩

/-- Nothing that happens changes when the end is heard, but the use of the handle. -/
theorem heardAt_cons (there : i < past.births.length)
    (heard : HeardAt (move :: past) i cause instant) :
    HeardAt past i cause instant ∨ instant = past.elapsed ∧ ∃ k, move = .cancel k := by
  cases heard with
  | canceled falls =>
    obtain old | ⟨-, now, k, r, used, -⟩ := (fallsOn_cons there).1 falls
    · exact .inl (.canceled old)
    · exact .inr ⟨now, k, used⟩
  | deadline falls =>
    obtain old | ⟨other, -⟩ := (fallsOn_cons there).1 falls
    · exact .inl (.deadline old)
    · cases other

theorem History.HeardAt.append (heard : HeardAt past i cause instant) (later : History) :
    HeardAt (later ++ past) i cause instant := by
  cases heard with
  | canceled falls => exact .canceled (falls.append later)
  | deadline falls => exact .deadline (falls.append later)

theorem elapsed_le_of_suffix (suffix : past <:+ h) : past.elapsed ≤ h.elapsed := by
  obtain ⟨later, rfl⟩ := suffix
  exact elapsed_le later past

theorem cause?_ne_none_of_heard (heard : Heard h i cause) : h.cause? i ≠ none := by
  obtain ⟨instant, now, heard⟩ := heard
  exact fun live => Nat.not_lt_of_le now (lt_of_live live heard)

/-- All that is heard is heard after what the clock showed before an instant. -/
def Unheard (h : History) (i instant : Nat) : Prop :=
  ∀ cause moment, HeardAt h i cause moment → ∀ past : History, past <:+ h →
    past.elapsed < instant → past.elapsed < moment

theorem Unheard.cons (unheard : Unheard h i instant) (there : i < h.births.length)
    (now : instant ≤ h.elapsed) (move : Move) : Unheard (move :: h) i instant := by
  intro cause moment heard past suffix before
  obtain rfl | suffix := List.suffix_cons_iff.1 suffix
  · exact absurd (Nat.lt_of_le_of_lt (elapsed_cons_le move h) before) (Nat.not_lt_of_le now)
  · obtain old | ⟨rfl, -⟩ := heardAt_cons there heard
    · exact unheard cause moment old past suffix before
    · exact Nat.lt_of_lt_of_le before now

theorem unheard_start (live : begun.cause? i = none) : Unheard begun i begun.elapsed :=
  fun _ _ heard _ _ before => Nat.lt_trans before (lt_of_live live heard)

theorem unheard_advance (there : i < h.births.length) (pending : h.poll i = .pending) :
    Unheard (.advance instant :: h) i (h.elapsed + instant) := by
  intro cause moment heard past suffix before
  obtain old | ⟨-, k, same⟩ := heardAt_cons there heard
  · obtain rfl | suffix := List.suffix_cons_iff.1 suffix
    · exact absurd before (Nat.lt_irrefl _)
    · exact Nat.lt_of_le_of_lt (elapsed_le_of_suffix suffix) (lt_of_pending pending old)
  · cases same

theorem Unheard.le (unheard : Unheard h i instant) (suffix : past <:+ h)
    (heard : Heard past i cause) : instant ≤ past.elapsed := by
  obtain ⟨later, rfl⟩ := suffix
  obtain ⟨moment, now, heard⟩ := heard
  by_contra before
  have after := unheard cause moment (heard.append later) past ⟨later, rfl⟩ (by omega)
  omega

theorem Unheard.le_of_unskipped (unheard : Unheard h i instant) (now : instant ≤ h.elapsed)
    (unskipped : Unskipped h i) (heard : HeardAt h i cause moment) : instant ≤ moment := by
  by_contra before
  obtain ⟨past, suffix, rfl⟩ := unskipped cause moment heard (by omega)
  exact Nat.lt_irrefl _ (unheard cause _ heard past suffix (by omega))

namespace Wait

/-- A wait that goes on has heard of nothing, and one that is over has of its cause first. -/
structure Watched (i : Nat) (w : Wait) : Prop where
  there : i < w.history.births.length
  waiting : w.outcome = none → Unheard w.history i w.history.elapsed
  ended : ∀ instant cause, w.outcome = some (instant, cause) → Unheard w.history i instant ∧
    ∃ past, Shown w.history instant past ∧ Heard past i cause

theorem Watched.le (watched : Watched i w) (ended : w.outcome = some (instant, cause)) :
    instant ≤ w.history.elapsed := by
  obtain ⟨-, past, ⟨suffix, rfl⟩, -⟩ := watched.ended instant cause ended
  exact elapsed_le_of_suffix suffix

theorem Watched.cons (watched : Watched i w) (move : Move)
    (waiting : w.outcome = none → Unheard (move :: w.history) i (elapsed (move :: w.history))) :
    Watched i { w with history := move :: w.history } where
  there := Nat.lt_of_lt_of_le watched.there (length_births_le [move] w.history)
  waiting := waiting
  ended instant cause ended := by
    obtain ⟨unheard, past, ⟨suffix, shown⟩, heard⟩ := watched.ended instant cause ended
    exact ⟨unheard.cons watched.there (watched.le ended) move, past,
      ⟨suffix.trans (List.suffix_cons _ _), shown⟩, heard⟩

theorem Watched.step (watched : Watched i w) (step : Step i w v) : Watched i v := by
  cases step with
  | act move still =>
    refine watched.cons move fun waiting => ?_
    rw [elapsed_cons still]
    exact (watched.waiting waiting).cons watched.there (Nat.le_refl _) move
  | pass nanos quiet =>
    -- Where the wait goes on, nothing was heard so far, so what is heard is heard later than now.
    exact watched.cons _ fun waiting => unheard_advance watched.there (quiet waiting)
  | wake waiting shows =>
    refine ⟨watched.there, nofun, fun instant cause ended => ?_⟩
    cases ended
    exact ⟨watched.waiting waiting, w.history, ⟨List.suffix_refl _, rfl⟩, shows_iff.1 shows⟩

theorem Reachable.watched (reached : Reachable begun i w) : Watched i w := by
  induction reached with
  | start there live => exact ⟨there, fun _ => unheard_start live, nofun⟩
  | step _ step ih => exact ih.step step

theorem Watched.punctual (watched : Watched i w) : w.Punctual i where
  waiting waiting instant before past cause shown heard := by
    obtain ⟨suffix, rfl⟩ := shown
    exact Nat.not_lt_of_le ((watched.waiting waiting).le suffix heard) before
  wakes waiting cause heard := by
    refine ⟨.wake waiting (shows_iff.2 heard), fun v step => ?_⟩
    cases step with
    | act move still => exact elapsed_cons still
    | pass nanos quiet => exact absurd heard (poll_eq_pending_iff.1 (quiet waiting) cause)
    | wake => rfl
  first instant cause ended := by
    obtain ⟨unheard, past, shown, heard⟩ := watched.ended instant cause ended
    refine ⟨⟨past, cause, shown, heard⟩, ?_⟩
    rintro _ ⟨other, cause, ⟨suffix, rfl⟩, heard⟩
    exact unheard.le suffix heard
  cause instant cause ended := by
    obtain ⟨unheard, past, shown, heard⟩ := watched.ended instant cause ended
    have earliest (other : Cause) (moment : Nat)
        (heard : ∃ past, Shown w.history moment past ∧ Heard past i other) : instant ≤ moment := by
      obtain ⟨past, ⟨suffix, rfl⟩, heard⟩ := heard
      exact unheard.le suffix heard
    exact ⟨⟨⟨past, shown, heard⟩, earliest cause⟩,
      fun other moment arrives => earliest other moment arrives.1⟩
  finished instant cause ended := by
    obtain ⟨-, past, shown, heard⟩ := watched.ended instant cause ended
    exact ⟨past, shown, cause?_ne_none_of_heard heard⟩
  exact instant cause ended unskipped := by
    obtain ⟨unheard, past, ⟨⟨later, same⟩, shown⟩, moment, now, heard⟩ :=
      watched.ended instant cause ended
    have latest (other : Cause) (moment : Nat) (heard : HeardAt w.history i other moment) :
        instant ≤ moment :=
      unheard.le_of_unskipped (watched.le ended) unskipped heard
    have heard : HeardAt w.history i cause moment := same ▸ heard.append later
    have together : moment = instant := Nat.le_antisymm (shown ▸ now) (latest _ _ heard)
    refine ⟨together ▸ heard, latest, fun other moment falls => ?_⟩
    obtain ⟨tick, heard, -, soon⟩ := HeardAt.le_of_fallsOn falls
    exact Nat.lt_of_le_of_lt (latest other tick heard) soon

end Wait

namespace History

/-- The use of a handle ends what comes from its root, and changes nothing else. -/
structure CancelsOnly (h : History) (k : Nat) (later : History) : Prop where
  ends : ∀ i r, Root h k r → Held h r → Root (later ++ h) i r →
    (later ++ .cancel k :: h : History).cause? i = some .canceled
  spares : ∀ i, (∀ r, Root h k r → Held h r → ¬ Root (later ++ h) i r) →
    (later ++ .cancel k :: h : History).poll i = (later ++ h : History).poll i ∧
      (later ++ .cancel k :: h : History).cause? i = (later ++ h : History).cause? i
  deadlines : ∀ i,
    (later ++ .cancel k :: h : History).deadline? i = (later ++ h : History).deadline? i

/-- Scopes end as the record says. -/
structure Lawful (h : History) : Prop where
  deadline : ∀ i < h.births.length, Meets (h.deadline? i) (bounds h i)
  canceled : ∀ i, h.cause? i = some .canceled ↔ ∃ r instant, Root h i r ∧ UsedAt h r instant
  exceeded : ∀ i, h.cause? i = some .deadline ↔
    h.cause? i ≠ some .canceled ∧ ∃ d, h.deadline? i = some d ∧ d ≤ ⟨h.elapsed⟩
  lasting : ∀ i later, h.cause? i ≠ none → (later ++ h : History).cause? i ≠ none
  cancels : ∀ k later, CancelsOnly h k later
  waits : ∀ i w, Wait.Reachable h i w → w.Punctual i

theorem cancelsOnly (h : History) (k : Nat) (later : History) : CancelsOnly h k later where
  ends i r hit held root :=
    cause?_eq_canceled_iff.2 ((came_insert k later h).2 (.inr ⟨rfl, r, hit, held, root⟩))
  spares i apart := by
    have missed (cause : Cause) :
        ¬ (cause = .canceled ∧ ∃ r, Root h k r ∧ Held h r ∧ Root (later ++ h) i r) := by
      rintro ⟨-, r, hit, held, root⟩
      exact apart r hit held root
    exact ⟨poll_congr fun cause => (heard_insert k later h).trans (or_iff_left (missed cause)),
      cause?_congr fun cause => (came_insert k later h).trans (or_iff_left (missed cause))⟩
  deadlines i := by
    obtain ⟨births, -⟩ := births_insert k later h
    by_cases there : i < (later ++ h : History).births.length
    · have meets := meets_deadline? (h := later ++ .cancel k :: h) (births ▸ there)
      rw [bounds_insert] at meets
      exact meets.unique (meets_deadline? there)
    · rw [deadline?_eq_none there, deadline?_eq_none (births ▸ there)]

end History

/-- Whatever is done with scopes and their handles, and however the clock goes on, scopes end by the
earliest bound or by the use of their root's handle, once and for all; waits tell so in time. -/
theorem scopes_end_as_recorded (h : History) : h.Lawful where
  deadline _ there := meets_deadline? there
  canceled _ := cause?_eq_canceled_iff.trans came_canceled_iff
  exceeded i := by
    rw [cause?_eq_deadline_iff, Ne, cause?_eq_canceled_iff, came_deadline_iff]
  lasting _ later ended := cause?_ne_none_append ended later
  cancels := cancelsOnly h
  waits _ _ reached := reached.watched.punctual

namespace Grandchild

/-- A root with a handle, a child of two seconds, and a child of that with thirty. -/
def family : History := [.withTimeout 1 ⟨30000000000⟩, .withTimeout 0 ⟨2000000000⟩, .withCancel]

def expired : Wait := ⟨.advance 2000000000 :: family, some (2000000000, .deadline)⟩

def cancelled : Wait := ⟨.cancel 1 :: .advance 500000000 :: family, some (500000000, .canceled)⟩

theorem reachable_expired : Wait.Reachable family 2 expired :=
  ((Wait.Reachable.start (by decide) (by decide)).step (.pass 2000000000 (by decide))).step
    (.wake rfl (show (Forest.Ending.heard .deadline).Shows _ from rfl))

theorem reachable_cancelled : Wait.Reachable family 2 cancelled :=
  (((Wait.Reachable.start (by decide) (by decide)).step (.pass 500000000 (by decide))).step
    (.act (.cancel 1) nofun)).step
    (.wake rfl (show (Forest.Ending.heard .canceled).Shows _ from rfl))

theorem scopes_end_as_recorded_in_a_family :
    family.deadline? 2 = some ⟨2000000000⟩ ∧ IsLeast (bounds family 2) ⟨2000000000⟩ ∧
      expired.Punctual 2 ∧ cancelled.Punctual 2 := by
  have lawful := scopes_end_as_recorded family
  have own : family.deadline? 2 = some ⟨2000000000⟩ := by decide
  have meets := lawful.deadline 2 (by decide)
  rw [own] at meets
  exact ⟨own, meets, lawful.waits 2 _ reachable_expired, lawful.waits 2 _ reachable_cancelled⟩

end Grandchild

namespace Overtaken

/-- A root with a handle, and a child whose deadline is no whole millisecond. -/
def family : History := [.withTimeout 0 ⟨1000400000⟩, .withCancel]

def due : History := .advance 1000400000 :: family

/-- The handle is used after the deadline, and before its timer fires. -/
def told : Wait := ⟨.cancel 0 :: .advance 300000 :: due, some (1000700000, .canceled)⟩

theorem reachable_told : Wait.Reachable family 1 told :=
  ((((Wait.Reachable.start (by decide) (by decide)).step (.pass 1000400000 (by decide))).step
    (.pass 300000 (by decide))).step (.act (.cancel 0) nofun)).step
    (.wake rfl (show (Forest.Ending.heard .canceled).Shows _ from rfl))

/-- The wait was not over in the first instant in which its scope was, and told what came last. -/
theorem told_of_handle_after_deadline :
    family.cause? 1 = none ∧ Wait.Reachable family 1 told ∧
      told.outcome = some (1000700000, .canceled) ∧
      Shown told.history 1000400000 due ∧ due.cause? 1 = some .deadline ∧
      ¬ IsLeast {t | ∃ past, Shown told.history t past ∧ past.cause? 1 ≠ none} 1000700000 := by
  have shown : Shown told.history 1000400000 due := ⟨⟨[.cancel 0, .advance 300000], rfl⟩, rfl⟩
  have ended : due.cause? 1 = some .deadline := by decide
  refine ⟨by decide, reachable_told, rfl, shown, ended, fun first => ?_⟩
  have earlier : 1000700000 ≤ 1000400000 := first.2 ⟨due, shown, by rw [ended]; nofun⟩
  omega

end Overtaken
end WarmupGate.Warmup
