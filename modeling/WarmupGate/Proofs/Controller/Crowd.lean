import Mathlib
import WarmupGate.Controller.Crowd
import WarmupGate.Proofs.Controller.Episode
import WarmupGate.Proofs.Warmup.Execution
import WarmupGate.Proofs.Telemetry.Ledger

/-!
# The gauge counts the runs at work

However reconciliations overlap and wherever they are given up, the gauge of a namespace and a node
is the number of reconciliations that hold a guard with these labels. The guard comes just before
the executor and goes when the result of the run is told, so the gauge is ahead of the runs and
behind them for a moment; wherever every reconciliation waits it is the number of runs at work. A
loop that goes on after its run was given up is not at work for anyone.
-/
namespace WarmupGate.Controller

open Warmup

variable {v : Visit} {c d : Crowd} {rest : List Act} {a : Act}

/-- An act that moves neither the guard nor the executor, and that has not to follow at once. -/
def Act.idle : Act → Bool
  | .log _ => true
  | .write _ => true
  | .publish _ => true
  | .measure (.requestLatency _ _) => true
  | _ => false

theorem Act.idle_of_silent (h : a.silent = true) : a.idle = true := by
  cases a <;> simp_all [Act.silent, Act.idle]

theorem Act.idle_of_reportsLatency (h : a.reportsLatency = true) : a.idle = true := by
  unfold Act.reportsLatency at h
  split at h
  · rfl
  · cases h

def Idle (acts : List Act) : Prop := ∀ a ∈ acts, a.idle = true

/-- What is ahead while the executor is at work. -/
def work (pod : Pod) (plan : Plan) (during : List Act) (success : Bool) (elapsed : Span)
    (count : Nat) (behind : List Act) : List Act :=
  during ++ .measure (.runResult plan.ns success elapsed) ::
    .measure (.runRequests plan.ns count) :: .measure (.pendingDown plan.ns pod.node) :: behind

inductive Orderly : Visit → Prop
  /-- No run is ahead. -/
  | apart {pod : Pod} {ahead : List Act} : Idle ahead → Orderly ⟨pod, none, none, ahead⟩
  | before {pod : Pod} {plan : Plan} {front during behind : List Act} {success : Bool}
      {elapsed : Span} {count : Nat} : Idle front → Idle during → Idle behind →
      Orderly ⟨pod, none, none, front ++ .measure (.pendingUp plan.ns pod.node) :: .execute plan ::
        work pod plan during success elapsed count behind⟩
  | entering {pod : Pod} {plan : Plan} {during behind : List Act} {success : Bool}
      {elapsed : Span} {count : Nat} : Idle during → Idle behind →
      Orderly ⟨pod, some (plan.ns, pod.node), none,
        .execute plan :: work pod plan during success elapsed count behind⟩
  | atWork {pod : Pod} {plan : Plan} {during behind : List Act} {success : Bool}
      {elapsed : Span} {count : Nat} : Idle during → Idle behind →
      Orderly ⟨pod, some (plan.ns, pod.node), some plan,
        work pod plan during success elapsed count behind⟩
  | reporting {pod : Pod} {plan : Plan} {behind : List Act} {count : Nat} : Idle behind →
      Orderly ⟨pod, some (plan.ns, pod.node), none, .measure (.runRequests plan.ns count) ::
        .measure (.pendingDown plan.ns pod.node) :: behind⟩
  | leaving {pod : Pod} {plan : Plan} {behind : List Act} : Idle behind →
      Orderly ⟨pod, some (plan.ns, pod.node), none,
        .measure (.pendingDown plan.ns pod.node) :: behind⟩

theorem idle_cons {acts : List Act} : Idle (a :: acts) ↔ a.idle = true ∧ Idle acts :=
  List.forall_mem_cons

theorem idle_append {acts acts' : List Act} : Idle (acts ++ acts') ↔ Idle acts ∧ Idle acts' :=
  List.forall_mem_append

theorem after_of_idle (h : a.idle = true) : v.after rest a = { v with ahead := rest } := by
  unfold Act.idle at h
  split at h <;> first | rfl | cases h

theorem Orderly.after (h : Orderly v) (next : v.ahead = a :: rest) : Orderly (v.after rest a) := by
  cases h with
  | apart idle =>
    obtain rfl : _ = a :: rest := next
    obtain ⟨first, others⟩ := idle_cons.1 idle
    rw [after_of_idle first]
    exact .apart others
  | @before pod plan front during behind success elapsed count idle idle' idle'' =>
    cases front with
    | nil =>
      cases next
      exact .entering idle' idle''
    | cons b front =>
      obtain ⟨first, others⟩ := idle_cons.1 idle
      cases next
      rw [after_of_idle first]
      exact .before others idle' idle''
  | entering idle idle' =>
    cases next
    exact .atWork idle idle'
  | @atWork pod plan during behind success elapsed count idle idle' =>
    cases during with
    | nil =>
      cases next
      exact .reporting idle'
    | cons b during =>
      obtain ⟨first, others⟩ := idle_cons.1 idle
      cases next
      rw [after_of_idle first]
      exact .atWork others idle'
  | reporting idle =>
    cases next
    exact .leaving idle
  | leaving idle =>
    cases next
    exact .apart idle

variable {ns node : String}

/-- The pod counts as pending under these labels. -/
def Visit.counts (v : Visit) (ns node : String) : Bool := decide (v.guard = some (ns, node))

theorem Orderly.guard_of_up (h : Orderly v)
    (next : v.ahead = .measure (.pendingUp ns node) :: rest) : v.guard = none := by
  cases h with
  | apart | before => rfl
  | entering | reporting | leaving => cases next
  | @atWork pod plan during behind success elapsed count idle idle' =>
    cases during with
    | nil => cases next
    | cons b during =>
      cases next
      cases (idle_cons.1 idle).1

theorem Orderly.guard_of_down (h : Orderly v)
    (next : v.ahead = .measure (.pendingDown ns node) :: rest) : v.guard = some (ns, node) := by
  cases h with
  | apart idle =>
    obtain rfl : _ = Act.measure (.pendingDown ns node) :: rest := next
    cases (idle_cons.1 idle).1
  | @before pod plan front during behind success elapsed count idle idle' idle'' =>
    cases front with
    | nil => cases next
    | cons b front =>
      cases next
      cases (idle_cons.1 idle).1
  | @atWork pod plan during behind success elapsed count idle idle' =>
    cases during with
    | nil => cases next
    | cons b during =>
      cases next
      cases (idle_cons.1 idle).1
  | entering | reporting => cases next
  | leaving idle =>
    cases next
    rfl

theorem guard_after (up : ∀ ns node, a ≠ .measure (.pendingUp ns node))
    (down : ∀ ns node, a ≠ .measure (.pendingDown ns node)) : (v.after rest a).guard = v.guard := by
  unfold Visit.after
  split
  · exact absurd rfl (up _ _)
  · exact absurd rfl (down _ _)
  all_goals rfl

theorem count_sample_eq_zero {s : Telemetry.Sample} (h : a ≠ .measure s) :
    a.sample?.toList.count s = 0 := by
  cases a <;> simp_all [Act.sample?]

theorem Orderly.balance_act (h : Orderly v) (next : v.ahead = a :: rest) (ns node : String) :
    a.sample?.toList.count (.pendingUp ns node) + [v].countP (·.counts ns node) =
      a.sample?.toList.count (.pendingDown ns node) +
        [v.after rest a].countP (·.counts ns node) := by
  by_cases up : ∃ ns' node', a = .measure (.pendingUp ns' node')
  · obtain ⟨ns', node', rfl⟩ := up
    simp [Visit.counts, Visit.after, h.guard_of_up next, Act.sample?, List.countP_cons,
      List.count_cons]
  by_cases down : ∃ ns' node', a = .measure (.pendingDown ns' node')
  · obtain ⟨ns', node', rfl⟩ := down
    simp [Visit.counts, Visit.after, h.guard_of_down next, Act.sample?, List.countP_cons,
      List.count_cons]
  · simp only [not_exists] at up down
    rw [count_sample_eq_zero (up ns node), count_sample_eq_zero (down ns node)]
    simp only [Visit.counts, List.countP_cons, guard_after up down]

theorem balance_giveUp (v : Visit) (strays : List Act) (ns node : String) :
    v.release.count (.pendingUp ns node) + [v].countP (·.counts ns node) =
      v.release.count (.pendingDown ns node) +
        [v.abandoned strays].countP (·.counts ns node) := by
  cases guard : v.guard <;>
    simp [Visit.counts, Visit.release, Visit.abandoned, guard, List.countP_cons, List.count_cons,
      Prod.ext_iff]

theorem Orderly.countP_counts (h : Orderly v) (ns node : String) :
    [v].countP (·.counts ns node) =
      [v].countP (·.runs ns node) + [v].countP (·.turns ns node) := by
  cases h <;> simp [Visit.counts, Visit.runs, Visit.turns, List.countP_cons]

theorem Orderly.turns_of_waits (h : Orderly v) (waits : v.Waits) : v.turns ns node = false := by
  cases h <;> simp_all [Visit.turns, Visit.Waits, Act.prompt]

/-- What holds of reconciliations side by side. -/
structure Crowd.Balanced (c : Crowd) : Prop where
  orderly : ∀ v ∈ c.visits, Orderly v
  balance : ∀ ns node, c.told.count (.pendingUp ns node) =
    c.told.count (.pendingDown ns node) + c.visits.countP (·.counts ns node)

namespace Crowd

theorem balanced_start : Balanced {} where
  orderly _ member := absurd member List.not_mem_nil
  balance _ _ := rfl

theorem orderly_episode {e : Episode} (admits : Admits e) :
    Orderly { pod := e.pod, ahead := e.outcome.acts } := by
  cases runs : e.plan? with
  | none =>
    exact .apart fun a member => Act.idle_of_silent (Episode.silent_outcome runs a member)
  | some plan =>
    obtain ⟨before, behind, front, back, acts⟩ := Episode.acts_of_plan runs
    have idle : Idle ((e.trial plan).events.map .log ++ (e.trial plan).samples.map .measure) := by
      rw [idle_append]
      constructor
      · intro a member
        obtain ⟨event, -, rfl⟩ := List.mem_map.1 member
        rfl
      · intro a member
        obtain ⟨sample, told, rfl⟩ := List.mem_map.1 member
        exact Act.idle_of_reportsLatency (admits plan runs sample told)
    have shape : e.outcome.acts = before ++ .measure (.pendingUp plan.ns e.pod.node) ::
        .execute plan :: work e.pod plan
          ((e.trial plan).events.map .log ++ (e.trial plan).samples.map .measure)
          (e.trial plan).report.success (e.trial plan).report.elapsed (e.trial plan).report.total
          behind := by
      rw [acts, Attempt.ofTrial]
      simp [work]
    rw [shape]
    exact .before (fun a member => Act.idle_of_silent (front a member)) idle
      (fun a member => Act.idle_of_silent (back a member))

theorem Balanced.join {visits : List Visit} {told : List Telemetry.Sample} {e : Episode}
    (h : Balanced ⟨visits, told⟩) (admits : Admits e) :
    Balanced ⟨visits ++ [{ pod := e.pod, ahead := e.outcome.acts }], told⟩ where
  orderly v member := by
    rcases List.mem_append.1 member with old | new
    · exact h.orderly v old
    · rw [List.mem_singleton.1 new]
      exact orderly_episode admits
  balance ns node := by
    rw [List.countP_append, List.countP_singleton]
    exact h.balance ns node

theorem Balanced.replace {before others : List Visit} {v w : Visit}
    {told samples : List Telemetry.Sample} (h : Balanced ⟨before ++ v :: others, told⟩)
    (orderly : Orderly w)
    (balance : ∀ ns node, samples.count (.pendingUp ns node) + [v].countP (·.counts ns node) =
      samples.count (.pendingDown ns node) + [w].countP (·.counts ns node)) :
    Balanced ⟨before ++ w :: others, samples ++ told⟩ where
  orderly u member := by
    rcases List.mem_append.1 member with front | back
    · exact h.orderly u (List.mem_append_left _ front)
    · rcases List.mem_cons.1 back with rfl | back
      · exact orderly
      · exact h.orderly u (List.mem_append_right _ (List.mem_cons_of_mem _ back))
  balance ns node := by
    have old := h.balance ns node
    have new := balance ns node
    simp only [List.countP_append, List.countP_cons, List.count_append, List.countP_nil]
      at old new ⊢
    omega

theorem Balanced.step (h : c.Balanced) (step : Step c d) : d.Balanced := by
  -- only one reconciliation moves at a time, so the others keep their guards
  cases step with
  | join e admits => exact h.join admits
  | @act before others v told a rest next =>
    have orderly := h.orderly v (by simp)
    exact h.replace (orderly.after next) (orderly.balance_act next)
  | @giveUp before others v told strays waits strayed =>
    exact h.replace (.apart fun a member => Act.idle_of_reportsLatency (strayed a member))
      (balance_giveUp v strays)

theorem Reachable.balanced (h : Reachable c) : c.Balanced := by
  induction h with
  | start => exact balanced_start
  | step _ step ih => exact ih.step step

/-- A pod counts as pending when the executor is at work for it, is about to begin, or is just done.
-/
theorem countP_counts {visits : List Visit} (orderly : ∀ v ∈ visits, Orderly v) (ns node : String) :
    visits.countP (·.counts ns node) =
      visits.countP (·.runs ns node) + visits.countP (·.turns ns node) := by
  induction visits with
  | nil => rfl
  | cons v visits ih =>
    rw [List.forall_mem_cons] at orderly
    have one := orderly.1.countP_counts ns node
    have others := ih orderly.2
    simp only [List.countP_cons, List.countP_nil] at one ⊢
    omega

theorem admits_ofLook (c : Circumstances) (pod : Pod) : Admits (.ofLook c pod) := by
  intro plan _ s told
  change s ∈ (c.executor.run plan ⟨some plan.window, c.shutdownAt⟩ c.target).samples at told
  cases executor : c.executor with
  | skipping | canned => simp [executor, Executor.run] at told
  | sending =>
    rw [executor, Executor.run] at told
    rcases Trial.run_cases plan ⟨some plan.window, c.shutdownAt⟩ c.target with
      ⟨-, eq⟩ | ⟨address, cause, -, -, eq⟩ | ⟨address, -, -, eq⟩
    · simp [eq, Trial.refused] at told
    · simp [eq, Trial.refused] at told
    · rw [eq, Trial.runAt] at told
      obtain ⟨latency, -, rfl⟩ := List.mem_map.1 told
      rfl

/-- At every moment the gauge of a namespace and a node shows how often it went up less how often it
went down, which is how many runs are at work there, and of those that count already or still
without being at work: these are just before or behind their run and do not wait there. So the gauge
is never negative, and where every reconciliation waits it shows the runs at work, and zero if there
is none. An episode without a run tells it nothing, and every look on the clock is an episode that
may join. -/
theorem gauge_counts_runs (h : Reachable c) (ns node : String) :
    (Telemetry.Ledger.ofSamples c.told.reverse).pending ns node =
        c.told.count (.pendingUp ns node) - c.told.count (.pendingDown ns node) ∧
      (Telemetry.Ledger.ofSamples c.told.reverse).pending ns node =
        c.visits.countP (·.runs ns node) + c.visits.countP (·.turns ns node) ∧
      0 ≤ (Telemetry.Ledger.ofSamples c.told.reverse).pending ns node ∧
      (∀ v ∈ c.visits, v.turns ns node = true → ¬ v.Waits) ∧
      ((∀ v ∈ c.visits, v.Waits) →
        (Telemetry.Ledger.ofSamples c.told.reverse).pending ns node =
          c.visits.countP (·.runs ns node)) ∧
      ((∀ v ∈ c.visits, v.Waits) → (∀ v ∈ c.visits, v.running = none) →
        (Telemetry.Ledger.ofSamples c.told.reverse).pending ns node = 0) ∧
      (∀ e : Episode, e.plan? = none → e.outcome.samples = []) ∧
      ∀ circumstances pod, Admits (.ofLook circumstances pod) ∧
        (Episode.ofLook circumstances pod).outcome = reconcile circumstances pod := by
  obtain ⟨orderly, balance⟩ := h.balanced
  have gauge := Telemetry.Ledger.pending_ofSamples ns node c.told.reverse
  have counts := countP_counts orderly ns node
  have balance := balance ns node
  rw [List.count_reverse, List.count_reverse] at gauge
  have turns : ∀ v ∈ c.visits, v.turns ns node = true → ¬ v.Waits := by
    intro v member turns waits
    rw [(orderly v member).turns_of_waits waits] at turns
    cases turns
  have settled : (∀ v ∈ c.visits, v.Waits) → c.visits.countP (·.turns ns node) = 0 := by
    intro waits
    rw [List.countP_eq_zero]
    exact fun v member turning => turns v member turning (waits v member)
  refine ⟨gauge, by omega, by omega, turns, fun waits => ?_, fun waits none => ?_,
    fun e idle => Episode.samples_of_idle idle,
    fun c pod => ⟨admits_ofLook c pod, Episode.outcome_ofLook c pod⟩⟩
  · have := settled waits
    omega
  · have := settled waits
    have : c.visits.countP (·.runs ns node) = 0 :=
      List.countP_eq_zero.2 fun v member runs => by simp [Visit.runs, none v member] at runs
    omega

theorem Reachable.act (before others : List Visit) {told : List Telemetry.Sample}
    (h : Reachable ⟨before ++ v :: others, told⟩) (ahead : v.ahead = a :: rest) :
    Reachable ⟨before ++ v.after rest a :: others, a.sample?.toList ++ told⟩ :=
  h.step (.act ahead)

end Crowd

namespace Waiting

/-- The executor is at work for one of two looks, and the other one was given up in the middle of
its run, whose request has just ended. -/
def overlapping : Crowd :=
  { visits :=
      [⟨pod, some ("shop", ""), some plan, visiting.outcome.acts.drop 4⟩,
        ⟨pod, none, none, [.measure (.requestLatency "shop" (.ofMillis 3))]⟩]
    told := [.pendingDown "shop" "", .pendingUp "shop" "", .pendingUp "shop" ""] }

theorem admits_visiting : Crowd.Admits visiting := by
  rintro plan - s told
  obtain rfl := List.mem_singleton.1 told
  rfl

theorem reachable_overlapping : Crowd.Reachable overlapping := by
  have joined : Crowd.Reachable
      ⟨[⟨pod, none, none, visiting.outcome.acts⟩, ⟨pod, none, none, visiting.outcome.acts⟩], []⟩ :=
    (Crowd.Reachable.start.step (.join visiting admits_visiting)).step
      (.join visiting admits_visiting)
  let begun : Visit := ⟨pod, none, none, visiting.outcome.acts⟩
  let busy : Visit := ⟨pod, some ("shop", ""), some plan, visiting.outcome.acts.drop 4⟩
  have second : Crowd.Reachable ⟨[begun, busy], [.pendingUp "shop" ""]⟩ :=
    (((joined.act [begun] [] rfl).act [begun] [] rfl).act [begun] [] rfl).act [begun] [] rfl
  have first : Crowd.Reachable ⟨[busy, busy], [.pendingUp "shop" "", .pendingUp "shop" ""]⟩ :=
    (((second.act [] [busy] rfl).act [] [busy] rfl).act [] [busy] rfl).act [] [busy] rfl
  have waits : busy.Waits := by
    intro a next
    cases next
    rfl
  have stray : ∀ a ∈ [Act.measure (.requestLatency "shop" (.ofMillis 3))],
      a.reportsLatency = true := by
    decide
  exact first.step (@Crowd.Step.giveUp [busy] [] busy _ _ waits stray)

/-- The gauge shows the one run that is at work. -/
theorem gauge_of_overlapping :
    (Telemetry.Ledger.ofSamples overlapping.told.reverse).pending "shop" "" = 1 ∧
      overlapping.visits.countP (·.runs "shop" "") = 1 := by
  have waits : ∀ v ∈ overlapping.visits, v.Waits := by
    intro v member
    rcases List.mem_pair.1 member with rfl | rfl <;>
    · intro a next
      cases next
      rfl
  have runs : overlapping.visits.countP (·.runs "shop" "") = 1 := by rfl
  have gauge := (Crowd.gauge_counts_runs reachable_overlapping "shop" "").2.2.2.2.1 waits
  rw [gauge, runs]
  exact ⟨rfl, rfl⟩

/-- The run of a look has ended and its result is told, while its pod still counts as pending. -/
def lingering : Crowd :=
  { visits := [⟨pod, some ("shop", ""), none, visiting.outcome.acts.drop 6⟩]
    told :=
      [.runResult "shop" true (.ofMillis 3), .requestLatency "shop" (.ofMillis 3),
        .pendingUp "shop" ""] }

theorem reachable_lingering : Crowd.Reachable lingering := by
  have joined : Crowd.Reachable ⟨[⟨pod, none, none, visiting.outcome.acts⟩], []⟩ :=
    Crowd.Reachable.start.step (.join visiting admits_visiting)
  have begun : Crowd.Reachable
      ⟨[⟨pod, some ("shop", ""), some plan, visiting.outcome.acts.drop 4⟩],
        [.pendingUp "shop" ""]⟩ :=
    (((joined.act [] [] rfl).act [] [] rfl).act [] [] rfl).act [] [] rfl
  exact (begun.act [] [] rfl).act [] [] rfl

/-- The gauge is not the number of runs at work at every moment: here it shows one and there is
none. -/
theorem gauge_of_lingering :
    Crowd.Reachable lingering ∧ (∀ v ∈ lingering.visits, v.running = none) ∧
      lingering.visits.countP (·.runs "shop" "") = 0 ∧
      (Telemetry.Ledger.ofSamples lingering.told.reverse).pending "shop" "" = 1 := by
  refine ⟨reachable_lingering, List.forall_mem_singleton.2 rfl, rfl, ?_⟩
  rw [Telemetry.Ledger.pending_ofSamples]
  rfl

end Waiting
end WarmupGate.Controller
