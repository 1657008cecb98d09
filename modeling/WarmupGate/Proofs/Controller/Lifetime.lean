import WarmupGate.Controller.Lifetime
import WarmupGate.Proofs.Controller.Race
import WarmupGate.Proofs.Controller.Revisit

/-!
# The decision is terminal

What a look writes and what the next look reads first are the same entry: the first one of the
gate's type. It says "True" from the first accepted write on, since no later step changes what it
says. So every later look stops there, before it reads anything else of the pod. Looks whose write
was refused are not bounded here; each of them may run the warmup again.
-/
namespace WarmupGate.Controller
open Cluster

namespace Look

variable {c : Circumstances} {pod : Pod}

/-- A look that does nothing but talk. -/
structure Idle (k : Look) : Prop where
  result : k.outcome.result = .ok .awaitChange
  plans : k.outcome.plans = []
  arrivals : k.outcome.arrivals = []
  writes : k.outcome.writes = []
  notices : k.outcome.notices = []
  samples : k.outcome.samples = []

/-- The target hears nothing of a look at a pod that is not ready for its warmup, and neither does
the ledger. -/
theorem silent_of_unready (unready : pod.gateState ≠ .ready) :
    (reconcile c pod).samples = [] ∧ (reconcile c pod).arrivals = [] := by
  unfold reconcile
  split
  case h_6 ready => exact absurd ready unready
  all_goals exact ⟨rfl, rfl⟩

theorem idle_of_holds (opened : pod.conditionHolds Pod.Key.warmupReady = true) :
    Idle ⟨c, pod⟩ := by
  obtain ⟨unready, leaves⟩ := (settled_iff pod).2 (.inr opened)
  obtain ⟨plans, writes, notices⟩ := filterMap_of_quiet (quiet_reconcile (c := c) unready)
  obtain ⟨samples, arrivals⟩ := silent_of_unready (c := c) unready
  refine ⟨?_, plans, arrivals, writes, notices, samples⟩
  rw [outcome, result_reconcile_of_unready unready, leaves]
  rfl

theorem after_of_unwritten {k : Look} (writes : k.outcome.writes = []) : k.after = k.pod := by
  unfold after
  split
  · rw [writes]
    rfl
  · rfl

theorem holds_after {k : Look} (recorded : k.Recorded) :
    k.after.conditionHolds Pod.Key.warmupReady = true := by
  obtain ⟨some, accepted⟩ := recorded
  rcases writes_reconcile_cases k.circumstances k.pod with ⟨-, -, writes⟩ | ⟨-, writes⟩
  · rw [after, accepted, outcome, writes]
    exact Condition.holds_upsert k.pod.status.conditions
      ((attempt k.circumstances k.pod).outcome.condition k.circumstances.now)
  · exact absurd writes some

end Look

namespace Lifetime

variable {start : Pod} {l k : Lifetime}

theorem holds_iff (pod : Pod) :
    pod.conditionHolds Pod.Key.warmupReady = true ↔ verdict? pod = some Condition.trueStatus := by
  unfold Pod.conditionHolds Condition.holds verdict?
  cases Condition.find? Pod.Key.warmupReady pod.status.conditions <;> simp [Condition.isTrue]

/-- Since the first accepted write the pod is let through and all looks are idle. -/
structure Final (l : Lifetime) : Prop where
  holds : (∃ k ∈ l.looks, k.Recorded) → l.pod.conditionHolds Pod.Key.warmupReady = true
  idle : l.looks.Pairwise fun newer older => older.Recorded → newer.Idle

theorem Final.look (h : l.Final) (c : Circumstances) : (l.look c).Final where
  holds := by
    rintro ⟨k, member, recorded⟩
    rcases List.mem_cons.1 member with rfl | earlier
    · exact Look.holds_after recorded
    · have opened := h.holds ⟨k, earlier, recorded⟩
      have unchanged : (l.look c).pod = l.pod :=
        Look.after_of_unwritten (Look.idle_of_holds opened).writes
      rwa [unchanged]
  idle := .cons
    (fun k earlier recorded => Look.idle_of_holds (h.holds ⟨k, earlier, recorded⟩)) h.idle

theorem Final.edit (h : l.Final) {next : Pod} (kept : verdict? next = verdict? l.pod) :
    (l.edit next).Final where
  holds recorded := by
    have opened := (holds_iff l.pod).1 (h.holds recorded)
    exact (holds_iff next).2 (kept.trans opened)
  idle := h.idle

theorem Final.step (h : l.Final) (step : Step l k) : k.Final := by
  cases step with
  | look c => exact h.look c
  | edit next kept => exact h.edit kept

theorem Reachable.final (reached : Reachable start l) : l.Final := by
  induction reached with
  | start => exact ⟨fun ⟨k, member, _⟩ => absurd member List.not_mem_nil, .nil⟩
  | step _ step ih => exact ih.step step

/-- Once a write was accepted, every later look at the pod leaves it until it changes and does
nothing else: it runs nothing, writes nothing, publishes nothing and counts nothing. So would any
further look at any later moment. Others may have changed the pod in between in every other way,
also by more entries of the gate's type behind the first. -/
theorem decision_is_terminal (reached : Reachable start l) :
    (l.looks.Pairwise fun newer older => older.Recorded → newer.Idle) ∧
      ((∃ k ∈ l.looks, k.Recorded) → ∀ c, Look.Idle ⟨c, l.pod⟩) :=
  ⟨reached.final.idle, fun recorded _ => Look.idle_of_holds (reached.final.holds recorded)⟩

end Lifetime

namespace Waiting

def first : Look := ⟨Race.Overlap.hearing (.ok ()), pod⟩

/-- The pod starts over, loses its address and gets a second entry that contradicts the first. -/
def disturbed : Pod :=
  { first.after with
    status :=
      { first.after.status with
        phase := some "Pending"
        address := none
        conditions :=
          first.after.status.conditions ++ [{ type := Pod.Key.warmupReady, status := "False" }] } }

def life : Lifetime :=
  ((({ pod } : Lifetime).look first.circumstances).edit disturbed).look leaving

theorem recorded_first : first.Recorded := ⟨List.cons_ne_nil _ _, rfl⟩

theorem reachable_life : Lifetime.Reachable pod life := by
  have looked : Lifetime.Reachable pod _ := .step .start (.look first.circumstances)
  exact (looked.step (.edit disturbed rfl)).step (.look leaving)

/-- The second look does not even start a run, though it could send requests. -/
theorem decision_is_terminal_when_disturbed :
    Lifetime.Reachable pod life ∧ first.Recorded ∧ Look.Idle ⟨leaving, disturbed⟩ ∧
      Look.Idle ⟨leaving, life.pod⟩ := by
  obtain ⟨later, next⟩ := Lifetime.decision_is_terminal reachable_life
  have member : first ∈ life.looks := .tail _ (.head _)
  refine ⟨reachable_life, recorded_first, ?_, next ⟨first, member, recorded_first⟩ leaving⟩
  exact (List.pairwise_cons.1 later).1 first (.head _) recorded_first

end Waiting

end WarmupGate.Controller
