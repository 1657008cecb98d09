import WarmupGate.Controller.Race
import WarmupGate.Proofs.Cluster.StoredPod
import WarmupGate.Proofs.Controller.Recording

/-!
# What a race cannot spoil

However looks at a pod and changes of it by others overlap, a write that takes effect was decided on
the pod as it is at that moment, since the versions of all earlier readings are smaller. So it
changes one condition and reverts nothing. It also leaves the gate open, and a pod whose gate is
open is not written to; while nobody else closes the gate, there is no second write. How often a
pod is warmed up is not bounded here, only how often that is recorded.
-/
namespace WarmupGate.Controller.Race
open Cluster

variable {allowed : Pod → Pod → Prop} {start : StoredPod} {r q : Race}

theorem foldl_carryOut (gap : Nat) (pod : Pod) (acts : List Act) (r : Race) :
    acts.foldl (carryOut gap pod) r =
      (acts.filterMap Act.written?).foldl (fun r conditions => r.write gap pod conditions) r := by
  induction acts generalizing r with
  | nil => rfl
  | cons a acts ih => cases a <;> exact ih _

theorem look_eq (r : Race) (gap : Nat) (pod : Pod) (c : Circumstances) :
    r.look gap pod c =
      (reconcile c pod).writes.foldl (fun r conditions => r.write gap pod conditions) r :=
  foldl_carryOut gap pod _ r

/-- All earlier versions of the pod are smaller than the current one. -/
def Dated (r : Race) : Prop := ∀ s ∈ r.past, s.version < r.current.version

theorem Dated.eq_current (dated : r.Dated) {snapshot : StoredPod} (read : snapshot ∈ r.history)
    (same : snapshot.version = r.current.version) : snapshot = r.current := by
  rcases List.mem_cons.1 read with rfl | earlier
  · rfl
  · have := dated snapshot earlier
    omega

/-- The pod lets itself through: its own conditions stay, but for the one that opens the gate. -/
structure Opens (before after : StoredPod) : Prop where
  ready : before.pod.gateState = .ready
  later : before.version < after.version
  upserted : ∃ (reason : Reason) (message : String) (now : Timestamp),
    after.pod =
      { before.pod with
        status :=
          { before.pod.status with
            conditions :=
              Condition.upsert before.pod.status.conditions
                { type := Pod.Key.warmupReady, status := "True", reason := some reason.text
                  message := some message, lastTransition := some now } } }

/-- A look leaves everything as it is, or it opens the gate of the pod as it is now. -/
theorem look_cases (dated : r.Dated) {snapshot : StoredPod} (read : snapshot ∈ r.history)
    (gap : Nat) (c : Circumstances) :
    r.look gap snapshot.read c = r ∨
      ∃ after, Opens r.current after ∧ r.look gap snapshot.read c = r.accept after := by
  rw [look_eq]
  rcases writes_reconcile_cases c snapshot.read with ⟨ready, -, writes⟩ | ⟨-, writes⟩
  · rw [writes, List.foldl_cons, List.foldl_nil, write]
    rcases r.current.write_cases snapshot gap
        (recorded snapshot.read (attempt c snapshot.read).outcome c.now) with
      ⟨same, taken⟩ | ⟨fault, refused⟩
    · obtain rfl := dated.eq_current read same
      rw [taken]
      refine .inr ⟨_, ⟨ready, ?_, _, _, _, rfl⟩, rfl⟩
      show r.current.version < r.current.version + gap + 1
      omega
    · rw [refused]
      exact .inl rfl
  · rw [writes]
    exact .inl rfl

/-- The pod came directly from one state into the other. -/
def Follows (r : Race) (before after : StoredPod) : Prop :=
  ∃ newer older, r.history = newer ++ after :: before :: older

theorem Follows.cons {before after : StoredPod} (h : r.Follows before after)
    (grown : q.history = q.current :: r.history) : q.Follows before after := by
  obtain ⟨newer, older, eq⟩ := h
  exact ⟨q.current :: newer, older, by rw [grown, eq, List.cons_append]⟩

/-- Versions grow, and every write that took effect opened the gate of the pod before it. -/
structure Faithful (r : Race) : Prop where
  dated : r.Dated
  opens : ∀ w ∈ r.accepted, Opens w.1 w.2 ∧ r.Follows w.1 w.2

theorem Dated.grow (dated : r.Dated) (past : q.past = r.history)
    (later : r.current.version < q.current.version) : q.Dated := by
  intro s member
  rw [past] at member
  rcases List.mem_cons.1 member with rfl | earlier
  · exact later
  · exact Nat.lt_trans (dated s earlier) later

theorem Faithful.edit (h : r.Faithful) {next : StoredPod}
    (later : r.current.version < next.version) : (r.edit next).Faithful where
  dated := h.dated.grow rfl later
  opens w member := ⟨(h.opens w member).1, (h.opens w member).2.cons rfl⟩

theorem Faithful.accept (h : r.Faithful) {after : StoredPod} (opens : Opens r.current after) :
    (r.accept after).Faithful where
  dated := h.dated.grow rfl opens.later
  opens w member := by
    rcases List.mem_cons.1 member with rfl | earlier
    · exact ⟨opens, [], r.past, rfl⟩
    · exact ⟨(h.opens w earlier).1, (h.opens w earlier).2.cons rfl⟩

theorem Faithful.step (h : r.Faithful) (step : Step allowed r q) : q.Faithful := by
  cases step with
  | edit next later edited => exact h.edit later
  | look gap c read heard =>
    rcases look_cases h.dated read gap c with eq | ⟨after, opens, eq⟩
    · rwa [eq]
    · rw [eq]
      exact h.accept opens

theorem Reachable.faithful (h : Reachable allowed start r) : r.Faithful := by
  induction h with
  | start => exact ⟨fun _ h => absurd h List.not_mem_nil, fun _ h => absurd h List.not_mem_nil⟩
  | step _ step ih => exact ih.step step

/-- The first entry of the gate's type is not taken away from "True". -/
def KeepsOpen (before after : Pod) : Prop :=
  before.conditionHolds Pod.Key.warmupReady = true → after.conditionHolds Pod.Key.warmupReady = true

/-- At most one write took effect, and the gate is open since. -/
structure Decided (r : Race) : Prop where
  once : r.accepted.length ≤ 1
  stays : r.accepted ≠ [] → r.current.pod.conditionHolds Pod.Key.warmupReady = true

theorem Opens.conditionHolds {before after : StoredPod} (h : Opens before after) :
    after.pod.conditionHolds Pod.Key.warmupReady = true := by
  obtain ⟨reason, message, now, eq⟩ := h.upserted
  rw [eq]
  exact Condition.holds_upsert before.pod.status.conditions (reason.condition message now)

/-- Only a pod whose gate is closed is let through, so nothing was accepted before. -/
theorem Decided.accept (h : r.Decided) {after : StoredPod} (opens : Opens r.current after) :
    (r.accept after).Decided where
  once := by
    have closed := Pod.closed_of_ready opens.ready
    have none : r.accepted = [] := by
      apply Classical.byContradiction
      intro some
      rw [h.stays some] at closed
      cases closed
    simp [Race.accept, none]
  stays _ := opens.conditionHolds

theorem Decided.step (kept : ∀ before after, allowed before after → KeepsOpen before after)
    (h : r.Decided) (dated : r.Dated) (step : Step allowed r q) : q.Decided := by
  cases step with
  | edit next later edited =>
    exact ⟨h.once, fun some => kept _ _ edited (h.stays some)⟩
  | look gap c read heard =>
    rcases look_cases dated read gap c with eq | ⟨after, opens, eq⟩
    · rwa [eq]
    · rw [eq]
      exact h.accept opens

theorem Reachable.decided (kept : ∀ before after, allowed before after → KeepsOpen before after)
    (h : Reachable allowed start r) : r.Decided := by
  induction h with
  | start => exact ⟨Nat.zero_le 1, (absurd rfl ·)⟩
  | step reached step ih => exact ih.step kept reached.faithful.dated step

theorem Opens.filter_eq {before after : StoredPod} (h : Opens before after) :
    after.pod.status.conditions.filter (fun e => e.type ≠ Pod.Key.warmupReady) =
      before.pod.status.conditions.filter (fun e => e.type ≠ Pod.Key.warmupReady) := by
  obtain ⟨reason, message, now, eq⟩ := h.upserted
  rw [eq]
  exact Condition.filter_upsert before.pod.status.conditions (reason.condition message now)

/-- Every write that takes effect changes the pod that was there immediately before it, which was
ready for its warmup, and changes it in the condition that opens the gate alone; no entry of another
party is lost. If nobody else takes that condition away from "True", at most one write of the
controller ever takes effect. Looks and other changes may overlap in any way. -/
theorem accepted_of_reachable (h : Reachable allowed start r) :
    (∀ w ∈ r.accepted, r.Follows w.1 w.2 ∧ Opens w.1 w.2 ∧
      w.2.pod.status.conditions.filter (fun e => e.type ≠ Pod.Key.warmupReady) =
        w.1.pod.status.conditions.filter (fun e => e.type ≠ Pod.Key.warmupReady)) ∧
      ((∀ before after, allowed before after → KeepsOpen before after) →
        r.accepted.length ≤ 1) := by
  refine ⟨fun w member => ?_, fun kept => (h.decided kept).once⟩
  obtain ⟨opens, follows⟩ := h.faithful.opens w member
  exact ⟨follows, opens, opens.filter_eq⟩

namespace Overlap

def early : StoredPod := ⟨Waiting.pod, 7⟩

/-- Meanwhile another party has entered a condition of its own. -/
def late : StoredPod :=
  { pod :=
      { Waiting.pod with
        status :=
          { Waiting.pod.status with
            conditions := Waiting.pod.status.conditions ++ [{ type := "Ready", status := "False" }] } }
    version := 9 }

def hearing (answer : Except WriteFault Unit) : Circumstances :=
  { executor := .skipping
    target := fun _ => {}
    answer
    now := ⟨"2024-05-01T10:00:00Z"⟩
    requeueDelay := .ofSeconds 5 }

def conflict : Except WriteFault Unit := .error (.conflict "shop" "api-0")

def changed : Race := ({ current := early } : Race).edit late

def lost : Race := changed.look 0 early.read (hearing conflict)

/-- Of two looks at the changed pod the first to write wins. -/
def won : Race := lost.look 0 late.read (hearing (.ok ()))

def finished : Race := won.look 0 late.read (hearing conflict)

theorem reachable_finished : Reachable KeepsOpen early finished := by
  have older : early.version ≠ changed.current.version := by decide
  have newer : late.version ≠ won.current.version := by decide
  have edited : Reachable KeepsOpen early changed :=
    .step .start (.edit late (by decide) fun opened => absurd opened (by decide))
  have refused : Reachable KeepsOpen early lost := by
    refine edited.step (.look 0 _ (.tail _ (.head _)) fun conditions _ => .inl ?_)
    exact (congrArg Prod.fst (StoredPod.write_of_stale rfl older)).symm
  have taken : Reachable KeepsOpen early won := by
    refine refused.step (.look 0 _ (.head _) fun conditions _ => .inl ?_)
    exact (congrArg Prod.fst (StoredPod.write_of_current rfl rfl)).symm
  refine taken.step (.look 0 _ (.tail _ (.head _)) fun conditions _ => .inl ?_)
  exact (congrArg Prod.fst (StoredPod.write_of_stale rfl newer)).symm

/-- One of three looks got through, and it kept the other party's entry. -/
theorem accepted_of_overlap :
    Reachable KeepsOpen early finished ∧ finished.accepted = [(late, finished.current)] ∧
      Opens late finished.current ∧ { type := "Ready", status := "False" } ∈
        finished.current.pod.status.conditions.filter (fun e => e.type ≠ Pod.Key.warmupReady) ∧
      finished.accepted.length ≤ 1 := by
  have one : finished.accepted = [(late, finished.current)] := rfl
  obtain ⟨sound, once⟩ := accepted_of_reachable reachable_finished
  obtain ⟨follows, opens, others⟩ := sound (late, finished.current) (one ▸ List.mem_singleton_self _)
  refine ⟨reachable_finished, one, opens, ?_, once fun _ _ kept => kept⟩
  rw [others]
  decide

end Overlap
end WarmupGate.Controller.Race
