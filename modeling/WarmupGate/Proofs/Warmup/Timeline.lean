import WarmupGate.Warmup.Timeline
import WarmupGate.Proofs.Warmup.Accounts
import WarmupGate.Proofs.Warmup.Plan

/-!
# Bursts in virtual time are bursts

Every happening on the clock is a turn of the loop, so a burst in virtual time comes to no state
that the loop without a clock could not come to. The clock never goes back. A burst that its scope
has stopped is stopped at the very moment at which the scope ends, and for its cause, and nothing
arrives at that moment or later.
-/
namespace WarmupGate.Warmup.Timeline

variable {c : Course} {t : Timeline}

theorem splitEarliest_eq_none {fs : List (Nat × Flight)} (h : splitEarliest fs = none) :
    fs = [] := by
  cases fs with
  | nil => rfl
  | cons f rest =>
    unfold splitEarliest at h
    split at h
    · cases h
    · split at h <;> cases h

/-- Something happens next for as long as the loop goes on. -/
theorem not_running_of_none (flight : nextFlight c t = none) (due : nextDue c t = none) :
    t.burst.running = false := by
  have sent : ¬ t.burst.dispatched < t.burst.quota := by
    intro h
    simp [nextDue, h] at due
  have landed : t.burst.inFlight = [] := by
    unfold nextFlight at flight
    split at flight
    · exact splitEarliest_eq_none ‹_›
    · simp [due] at flight
  simp [Burst.running, sent, landed]

theorem ending_of_interrupted {ending : Option (Nat × Cause)} {next : Option Nat}
    {moment : Nat} {cause : Cause} (h : interrupted ending next = some (moment, cause)) :
    ending = some (moment, cause) := by
  unfold interrupted at h
  split at h
  · split at h <;> simp_all
  · simpa using h
  · cases h

/-- No request in flight was led on too often. -/
def Followable (t : Timeline) : Prop := ∀ f ∈ t.burst.inFlight, f.2.followed ≤ maxRedirects

theorem followable_start (quota : Nat) : (start quota).Followable := by
  intro f hf
  cases hf

theorem Followable.of_nextFlight (followable : t.Followable)
    {before after : List (Nat × Flight)} {k : Nat} {f : Flight}
    (flight : nextFlight c t = some (before, (k, f), after)) : f.followed ≤ maxRedirects :=
  followable (k, f) (by simp [nextFlight_eq flight])

theorem step_turn {before after : List (Nat × Flight)} {k : Nat} {f : Flight}
    (running : t.burst.running = true) (flights : t.burst.inFlight = before ++ (k, f) :: after) :
    Burst.Step t.burst (turn c t before k f after).burst ∧
      (turn c t before k f after).burst.stopped = false := by
  have going := Burst.stopped_of_running running
  unfold turn
  split
  · exact ⟨.finish _ running flights, going⟩
  · split
    · split
      · exact ⟨.revise _ running flights, going⟩
      · exact ⟨.finish _ running flights, going⟩
    · exact ⟨.finish _ running flights, going⟩

theorem followable_turn {before after : List (Nat × Flight)} {k : Nat} {f : Flight}
    (followable : t.Followable) (flights : t.burst.inFlight = before ++ (k, f) :: after) :
    (turn c t before k f after).Followable := by
  have others : ∀ g ∈ before ++ after, g.2.followed ≤ maxRedirects := by
    intro g hg
    apply followable
    rw [flights]
    rcases List.mem_append.1 hg with hg | hg <;> simp [hg]
  unfold turn
  split
  · exact others
  · split
    · rename_i room
      split
      · intro g hg
        rcases List.mem_append.1 hg with hg | hg
        · exact others g (List.mem_append_left _ hg)
        · rcases List.mem_cons.1 hg with rfl | hg
          · rw [followed_arrive]
            exact room
          · exact others g (List.mem_append_right _ hg)
      · exact others
    · exact others

theorem step_dispatch {due : Nat} (running : t.burst.running = true)
    (h : nextDue c t = some due) :
    Burst.Step t.burst (dispatch c t).burst ∧ (dispatch c t).burst.stopped = false := by
  have going := Burst.stopped_of_running running
  exact ⟨.dispatch _ running (dispatched_lt_of_nextDue h), going⟩

theorem followable_dispatch (followable : t.Followable) : (dispatch c t).Followable := by
  intro g hg
  rcases List.mem_append.1 hg with hg | hg
  · exact followable g hg
  · rw [List.mem_singleton.1 hg, followed_send]
    exact Nat.zero_le _

theorem reachable_run {quota : Nat} (c : Course) (t : Timeline) (followable : t.Followable)
    (h : Burst.Reachable quota t.burst) : Burst.Reachable quota (run c t).1.burst := by
  fun_induction run c t with
  | case1 t running moment cause cut => exact h.step (.stop running)
  | case2 t running cut before k f after flight room ih =>
    have flights := nextFlight_eq flight
    exact ih (followable_turn followable flights) (h.step (step_turn running flights).1)
  | case3 t running cut before k f after flight room => exact h
  | case4 t running cut flight due next far => exact h.step (.stop running)
  | case5 t running cut flight due next near ih =>
    exact ih (followable_dispatch followable) (h.step (step_dispatch running next).1)
  | case6 t running cut flight due => exact h
  | case7 t running => exact h

theorem ending_of_stopped (c : Course) (t : Timeline) {cause : Cause}
    (h : (run c t).2 = .stopped cause) : c.ending = some ((run c t).1.now, cause) := by
  fun_induction run c t with
  | case1 t running moment cause cut =>
    cases h
    exact ending_of_interrupted cut
  | case2 t running cut before k f after flight room ih => exact ih h
  | case3 => cases h
  | case4 => cases h
  | case5 t running cut flight due next near ih => exact ih h
  | case6 => cases h
  | case7 => cases h

variable {moment : Nat} {cause : Cause}

/-- All that has happened so far was before a moment. -/
structure Before (moment : Nat) (t : Timeline) : Prop where
  now : t.now < moment
  arrivals : ∀ a ∈ t.arrivals, a.millis < moment

theorem millis_arrive {arrivals : List Arrival} {now sentAt expiresAt followed : Nat}
    {url : Net.Url} {a : Arrival}
    (h : a ∈ (c.arrive arrivals now sentAt expiresAt followed url).2) :
    a ∈ arrivals ∨ a.millis = now := by
  unfold Course.arrive at h
  dsimp only at h
  split at h
  · exact .inl h
  · rcases List.mem_cons.1 h with rfl | h
    · exact .inr rfl
    · exact .inl h

theorem millis_send {arrivals : List Arrival} {now : Nat} {a : Arrival}
    (h : a ∈ (c.send arrivals now).2) : a ∈ arrivals ∨ a.millis = now := by
  unfold Course.send at h
  split at h
  · exact millis_arrive h
  · exact .inl h

theorem now_turn (c : Course) (t : Timeline) (before after : List (Nat × Flight)) (k : Nat)
    (f : Flight) : (turn c t before k f after).now = f.turnAt := by
  unfold turn
  split
  · rfl
  · split
    · split <;> rfl
    · rfl

theorem millis_turn {before after : List (Nat × Flight)} {k : Nat} {f : Flight} {a : Arrival}
    (h : a ∈ (turn c t before k f after).arrivals) : a ∈ t.arrivals ∨ a.millis = f.turnAt := by
  unfold turn at h
  split at h
  · exact .inl h
  · split at h
    · split at h
      · exact millis_arrive h
      · exact .inl h
    · exact .inl h

theorem Before.turn (h : t.Before moment) {before after : List (Nat × Flight)} {k : Nat}
    {f : Flight} (soon : f.turnAt < moment) : (turn c t before k f after).Before moment where
  now := by rwa [now_turn]
  arrivals a ha := by
    rcases millis_turn ha with ha | ha
    · exact h.arrivals a ha
    · rwa [ha]

theorem Before.dispatch (h : t.Before moment) (soon : c.due t.burst.dispatched < moment) :
    (dispatch c t).Before moment where
  now := soon
  arrivals a ha := by
    rcases millis_send ha with ha | ha
    · exact h.arrivals a ha
    · rwa [ha]

theorem due_of_nextDue {due : Nat} (h : nextDue c t = some due) :
    c.due t.burst.dispatched = due := by
  simpa [nextDue, dispatched_lt_of_nextDue h] using h

/-- What happens next happens before the end of the scope, unless that comes first. -/
theorem lt_of_interrupted {next : Nat}
    (h : interrupted (some (moment, cause)) (some next) = none) : next < moment := by
  simpa [interrupted] using h

/-- A run that is not stopped is over before its scope is, and nothing arrives after that. -/
theorem run_before (c : Course) (t : Timeline) (ending : c.ending = some (moment, cause))
    (h : t.Before moment) :
    (∀ a ∈ (run c t).1.arrivals, a.millis < moment) ∧
      ((run c t).2 = .stopped cause ∧ (run c t).1.now = moment ∨
        (∀ cause, (run c t).2 ≠ .stopped cause) ∧ (run c t).1.now < moment) := by
  fun_induction run c t with
  | case1 t running moment' cause' cut =>
    have same := (ending_of_interrupted cut).symm.trans ending
    cases same
    exact ⟨h.arrivals, .inl ⟨rfl, rfl⟩⟩
  | case2 t running cut before k f after flight room ih =>
    rw [ending, nextAt, flight] at cut
    exact ih (h.turn (lt_of_interrupted cut))
  | case3 t running cut before k f after flight room =>
    exact ⟨h.arrivals, .inr ⟨fun _ => (nomatch ·), h.now⟩⟩
  | case4 t running cut flight due next far =>
    have soon : due < moment := by
      rw [ending, nextAt, flight, next] at cut
      exact lt_of_interrupted cut
    exact ⟨h.arrivals, .inr ⟨fun _ => (nomatch ·), soon⟩⟩
  | case5 t running cut flight due next near ih =>
    rw [ending, nextAt, flight, next] at cut
    exact ih (h.dispatch (due_of_nextDue next ▸ lt_of_interrupted cut))
  | case6 t running cut flight due => exact ⟨h.arrivals, .inr ⟨fun _ => (nomatch ·), h.now⟩⟩
  | case7 t running => exact ⟨h.arrivals, .inr ⟨fun _ => (nomatch ·), h.now⟩⟩

theorem run_of_unplannable {due : Nat} (running : t.burst.running = true)
    (cut : interrupted c.ending (nextAt c t) = none) (flight : nextFlight c t = none)
    (next : nextDue c t = some due) (far : c.unplannable (t.burst.dispatched + 1) = true) :
    run c t = ({ t with now := due, burst := t.burst.stop }, .overflowed) := by
  fun_cases run c t <;> simp_all

theorem turnAt_le_of_splitEarliest {fs before after : List (Nat × Flight)} {f : Nat × Flight}
    (h : splitEarliest fs = some (before, f, after)) : ∀ g ∈ fs, f.2.turnAt ≤ g.2.turnAt := by
  induction fs generalizing before f after with
  | nil => cases h
  | cons first rest ih =>
    unfold splitEarliest at h
    split at h
    · rename_i none
      cases h
      rw [splitEarliest_eq_none none]
      exact List.forall_mem_singleton.2 (Nat.le_refl _)
    · rename_i before' earliest after' some
      have least := ih some
      split at h <;> cases h
      · rename_i sooner
        exact List.forall_mem_cons.2 ⟨Nat.le_of_lt sooner, least⟩
      · rename_i later
        exact List.forall_mem_cons.2
          ⟨Nat.le_refl _, fun g hg => Nat.le_trans (Nat.le_of_not_lt later) (least g hg)⟩

theorem turnAt_le_of_nextFlight {before after : List (Nat × Flight)} {f : Nat × Flight}
    (h : nextFlight c t = some (before, f, after)) :
    (∀ g ∈ t.burst.inFlight, f.2.turnAt ≤ g.2.turnAt) ∧
      ∀ due, nextDue c t = some due → f.2.turnAt ≤ due := by
  unfold nextFlight at h
  split at h
  · cases h
  · rename_i split found
    split at h
    · rename_i first
      cases h
      refine ⟨turnAt_le_of_splitEarliest found, fun due next => ?_⟩
      simpa [next] using first
    · cases h

theorem due_le_of_nextFlight {due : Nat} (flight : nextFlight c t = none)
    (next : nextDue c t = some due) : ∀ g ∈ t.burst.inFlight, due ≤ g.2.turnAt := by
  unfold nextFlight at flight
  split at flight
  · rename_i none
    rw [splitEarliest_eq_none none]
    exact fun g hg => absurd hg List.not_mem_nil
  · rename_i split found
    have later : due < split.2.1.2.turnAt := by simpa [next] using flight
    intro g hg
    exact Nat.le_trans (Nat.le_of_lt later) (turnAt_le_of_splitEarliest found g hg)

theorem due_mono {k : Nat} (h : k < c.plan.requests) : c.due k ≤ c.due (k + 1) := by
  have grows := c.plan.offset_mono h
  unfold Course.due Span.ceilMillis
  omega

/-- Nothing in flight lies in the past, nor behind its own end, and neither does the next dispatch.
-/
structure Forward (c : Course) (t : Timeline) : Prop where
  quota : t.burst.quota = c.plan.requests
  turns : ∀ f ∈ t.burst.inFlight, t.now ≤ f.2.turnAt ∧ f.2.turnAt ≤ f.2.expiresAt
  due : t.burst.dispatched < t.burst.quota → t.now ≤ c.due t.burst.dispatched

theorem forward_start (c : Course) : Forward c (start c.plan.requests) where
  quota := rfl
  turns := fun _ hf => absurd hf List.not_mem_nil
  due := fun _ => Nat.zero_le _

/-- What happens next to a request that arrives lies between its arrival and its end. -/
theorem turnAt_arrive (c : Course) (arrivals : List Arrival) {now sentAt expiresAt followed : Nat}
    (url : Net.Url) (h : now ≤ expiresAt) :
    now ≤ (c.arrive arrivals now sentAt expiresAt followed url).1.turnAt ∧
      (c.arrive arrivals now sentAt expiresAt followed url).1.turnAt ≤
        (c.arrive arrivals now sentAt expiresAt followed url).1.expiresAt := by
  unfold Course.arrive
  dsimp only
  split
  · exact ⟨Nat.le_refl _, h⟩
  · split
    · split
      · rename_i soon
        exact ⟨Nat.le_add_right _ _, Nat.le_of_lt soon⟩
      · exact ⟨h, Nat.le_refl _⟩
    · exact ⟨h, Nat.le_refl _⟩

theorem turnAt_send (c : Course) (arrivals : List Arrival) (now : Nat) :
    now ≤ (c.send arrivals now).1.turnAt ∧
      (c.send arrivals now).1.turnAt ≤ (c.send arrivals now).1.expiresAt := by
  unfold Course.send
  split
  · exact turnAt_arrive c arrivals _ (Nat.le_add_right _ _)
  · exact ⟨Nat.le_refl _, Nat.le_add_right _ _⟩

theorem dispatched_turn (c : Course) (t : Timeline) (before after : List (Nat × Flight)) (k : Nat)
    (f : Flight) :
    (turn c t before k f after).burst.dispatched = t.burst.dispatched ∧
      (turn c t before k f after).burst.quota = t.burst.quota ∧
      (turn c t before k f after).sentAt = t.sentAt := by
  unfold turn
  split
  · exact ⟨rfl, rfl, rfl⟩
  · split
    · split <;> exact ⟨rfl, rfl, rfl⟩
    · exact ⟨rfl, rfl, rfl⟩

/-- What a flight that has taken its turn leaves in flight: the others, and itself if it was led on.
-/
theorem mem_inFlight_turn {before after : List (Nat × Flight)} {k : Nat} {f : Flight}
    (live : f.turnAt ≤ f.expiresAt) {g : Nat × Flight}
    (h : g ∈ (turn c t before k f after).burst.inFlight) :
    g ∈ before ++ after ∨ f.turnAt ≤ g.2.turnAt ∧ g.2.turnAt ≤ g.2.expiresAt := by
  unfold turn at h
  split at h
  · exact .inl h
  · split at h
    · split at h
      · rcases List.mem_append.1 h with h | h
        · exact .inl (List.mem_append_left _ h)
        · rcases List.mem_cons.1 h with rfl | h
          · exact .inr (turnAt_arrive c _ _ live)
          · exact .inl (List.mem_append_right _ h)
      · exact .inl h
    · exact .inl h

theorem Forward.turn (h : Forward c t) {before after : List (Nat × Flight)} {k : Nat} {f : Flight}
    (flights : t.burst.inFlight = before ++ (k, f) :: after)
    (first : ∀ g ∈ t.burst.inFlight, f.turnAt ≤ g.2.turnAt)
    (soon : ∀ due, nextDue c t = some due → f.turnAt ≤ due) :
    Forward c (turn c t before k f after) := by
  obtain ⟨dispatched, quota, -⟩ := dispatched_turn c t before after k f
  refine ⟨quota.trans h.quota, fun g hg => ?_, fun room => ?_⟩
  · rw [now_turn]
    have live := (h.turns (k, f) (by simp [flights])).2
    rcases mem_inFlight_turn live hg with other | self
    · have member : g ∈ t.burst.inFlight := by
        rw [flights]
        rcases List.mem_append.1 other with g | g <;> simp [g]
      exact ⟨first g member, (h.turns g member).2⟩
    · exact self
  · rw [now_turn, dispatched]
    rw [dispatched, quota] at room
    exact soon _ (by rw [nextDue, if_pos room])

theorem Forward.dispatch (h : Forward c t) {due : Nat} (next : nextDue c t = some due)
    (soon : ∀ g ∈ t.burst.inFlight, due ≤ g.2.turnAt) : Forward c (dispatch c t) where
  quota := (Burst.quota_dispatch t.burst _).trans h.quota
  turns g hg := by
    rw [← due_of_nextDue next] at soon
    rcases List.mem_append.1 hg with other | self
    · exact ⟨soon g other, (h.turns g other).2⟩
    · rw [List.mem_singleton.1 self]
      exact turnAt_send c _ _
  due room := by
    have last : t.burst.dispatched < c.plan.requests := h.quota ▸ dispatched_lt_of_nextDue next
    exact due_mono last

end WarmupGate.Warmup.Timeline
