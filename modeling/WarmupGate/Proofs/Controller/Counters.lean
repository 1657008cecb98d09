import Mathlib
import WarmupGate.Proofs.Controller.Episode
import WarmupGate.Proofs.Controller.Healthy
import WarmupGate.Proofs.Telemetry.Ledger
import WarmupGate.Proofs.Warmup.Arising

/-!
# The counters agree

Over any number of finished looks at pods, told to one ledger in any order, the series of a
namespace are different views of the same runs: the latencies and the requests add up what the
reports count, and results, durations and successes count the reports themselves. A look without a
run leaves no trace in any of them. The gauge is not a matter of this module.
-/
namespace WarmupGate.Controller

open Warmup Telemetry

namespace Episode

/-- The report of the run of an episode, if it takes place in a namespace. -/
def report? (e : Episode) (ns : String) : Option Report :=
  e.plan?.bind fun plan => if plan.ns = ns then some (e.trial plan).report else none

/-- The run of an episode, if there is one, is the execution of its plan. -/
def Arises (e : Episode) : Prop := ∀ plan, e.plan? = some plan → (e.trial plan).Arises plan

variable {e : Episode} {plan : Plan} {ns : String}

/-- The sum of the weights of the samples that an episode tells. -/
def weigh (weight : Sample → Nat) (e : Episode) : Nat := (e.outcome.samples.map weight).sum

theorem inBounds_of_plan (runs : e.plan? = some plan) : plan.InBounds :=
  (Plan.resolve_eq_ok_iff.1 (Circumstances.plan?_eq_some_iff.1 runs).2.1).inBounds

/-- The plan of a pod is within its bounds, so its run tells as many latencies as its report counts
requests. -/
theorem samples_eq (arises : e.Arises) (runs : e.plan? = some plan) :
    ∃ latencies : List Span,
      (e.trial plan).samples = latencies.map (Sample.requestLatency plan.ns) ∧
        latencies.length = (e.trial plan).report.total ∧
        (e.trial plan).report.total ≤ plan.requests :=
  (arises plan runs).samples_eq fun _ room =>
    Plan.offset_lt_instantLimit (inBounds_of_plan runs).fits room

theorem report?_of_plan (runs : e.plan? = some plan) :
    e.report? ns = if plan.ns = ns then some (e.trial plan).report else none := by
  rw [report?, runs, Option.bind_some]

theorem report?_of_idle (idle : e.plan? = none) : e.report? ns = none := by
  rw [report?, idle, Option.bind_none]

/-- A series to which the samples of a run in one namespace add something about its report, and all
other runs nothing. There are as many latencies as the report counts requests. -/
theorem weigh_eq {weight : Sample → Nat} {value : Report → Nat} (arises : e.Arises)
    (latency : String → Nat) (each : ∀ a d, weight (.requestLatency a d) = latency a)
    (run : ∀ a node (r : Report), weight (.pendingUp a node) + r.total * latency a +
      (weight (.runResult a r.success r.elapsed) + weight (.runRequests a r.total) +
        weight (.pendingDown a node)) = if a = ns then value r else 0) :
    weigh weight e = ((e.report? ns).map value).getD 0 := by
  cases runs : e.plan? with
  | none =>
    rw [weigh, samples_of_idle runs, report?_of_idle runs]
    rfl
  | some plan =>
    obtain ⟨latencies, samples, count, -⟩ := samples_eq arises runs
    have constant : latencies.map (fun d => weight (.requestLatency plan.ns d)) =
        latencies.map fun _ => latency plan.ns := List.map_congr_left fun d _ => each plan.ns d
    have weighed : weigh weight e = if plan.ns = ns then value (e.trial plan).report else 0 := by
      rw [← run plan.ns e.pod.node, weigh, samples_of_plan runs, samples]
      simp [Function.comp_def, constant, count, Nat.add_assoc]
    rw [weighed, report?_of_plan runs]
    split <;> rfl

theorem weigh_latencies (arises : e.Arises) (ns : String) :
    weigh (Sample.latencies ns) e = ((e.report? ns).map Report.total).getD 0 :=
  weigh_eq arises (fun a => if a = ns then 1 else 0) (fun _ _ => rfl) fun a node r => by
    by_cases here : a = ns <;> simp [Sample.latencies, here]

theorem weigh_requests (arises : e.Arises) (ns : String) :
    weigh (Sample.requests ns) e = ((e.report? ns).map Report.total).getD 0 :=
  weigh_eq arises (fun _ => 0) (fun _ _ => rfl) fun a node r => by
    by_cases here : a = ns <;> simp [Sample.requests, here]

theorem weigh_runs (arises : e.Arises) (ns : String) (success : Bool) :
    weigh (Sample.runs ns success) e =
      ((e.report? ns).map fun r => if r.success = success then 1 else 0).getD 0 :=
  weigh_eq arises (fun _ => 0) (fun _ _ => rfl) fun a node r => by
    by_cases here : a = ns <;> simp [Sample.runs, here]

theorem weigh_durations (arises : e.Arises) (ns : String) :
    weigh (Sample.durations ns) e = ((e.report? ns).map fun _ => 1).getD 0 :=
  weigh_eq arises (fun _ => 0) (fun _ _ => rfl) fun a node r => by
    by_cases here : a = ns <;> simp [Sample.durations, here]

theorem sum_told {weight : Sample → Nat} {value : Report → Nat} {es : List Episode}
    {samples : List Sample} (told : samples.Perm (es.flatMap (·.outcome.samples)))
    (each : ∀ e ∈ es, weigh weight e = ((e.report? ns).map value).getD 0) :
    (samples.map weight).sum = ((es.filterMap (·.report? ns)).map value).sum := by
  rw [(told.map weight).sum_eq]
  clear told
  induction es with
  | nil => rfl
  | cons e es ih =>
    rw [List.forall_mem_cons] at each
    rw [List.flatMap_cons, List.map_append, List.sum_append, ih each.2, List.filterMap_cons]
    change weigh weight e + _ = _
    rw [each.1]
    cases e.report? ns with
    | none => simp
    | some r => simp

theorem sum_indicator (success : Bool) (reports : List Report) :
    (reports.map fun r => if r.success = success then 1 else 0).sum =
      reports.countP fun r => r.success = success := by
  induction reports with
  | nil => rfl
  | cons r reports ih =>
    rw [List.map_cons, List.sum_cons, ih, List.countP_cons, Nat.add_comm]
    simp

theorem total_lt_of_report {r : Report} (arises : e.Arises) (report : e.report? ns = some r) :
    r.total < Word.size 32 := by
  cases runs : e.plan? with
  | none => simp [report?_of_idle runs] at report
  | some plan =>
    obtain ⟨-, -, -, total⟩ := samples_eq arises runs
    have most := (inBounds_of_plan runs).requests.2
    have some := Word.size_pos 32
    rw [report?_of_plan runs] at report
    split at report <;> cases report
    omega

theorem arises_ofLook {c : Circumstances} (sending : c.executor = .sending) (pod : Pod) :
    (ofLook c pod).Arises := by
  intro plan _
  change (c.trial plan).Arises plan
  rw [Circumstances.trial_of_sending sending]
  exact Trial.arises_run ..

end Episode

/-- Over any finished looks, told in any order, whose runs are executions of their plans: in every
namespace the latencies are as many as the requests, and these are the completed and the failed ones
of all reports; results, told apart by success, are as many as the runs, and so are the lengths; the
successes are the runs whose report says so. No report counts more requests than a word of 32 bits
holds. A look at a pod that is not ready, that has no plan, or whose run is skipped tells nothing,
and every look of a controller that sends requests is one of these. -/
theorem counters_agree {es : List Episode} {samples : List Sample}
    (arise : ∀ e ∈ es, e.Arises) (told : samples.Perm (es.flatMap (·.outcome.samples)))
    (ns : String) :
    (Ledger.ofSamples samples).latencies ns = (Ledger.ofSamples samples).requests ns ∧
      (Ledger.ofSamples samples).requests ns =
        ((es.filterMap (·.report? ns)).map fun r => r.completed + r.failed).sum ∧
      (∀ r ∈ es.filterMap (·.report? ns), r.completed + r.failed < Word.size 32) ∧
      (Ledger.ofSamples samples).runs ns true + (Ledger.ofSamples samples).runs ns false =
        (es.filterMap (·.report? ns)).length ∧
      (Ledger.ofSamples samples).durations ns = (es.filterMap (·.report? ns)).length ∧
      (Ledger.ofSamples samples).runs ns true =
        (es.filterMap (·.report? ns)).countP (·.success) ∧
      (∀ e : Episode, e.pod.gateState ≠ .ready ∨
        (∃ fault, Plan.resolve e.pod = .error fault) ∨ e.circumstances.executor.skips = true →
        e.outcome.samples = [] ∧ e.report? ns = none) ∧
      ∀ c pod, c.executor = .sending →
        (Episode.ofLook c pod).Arises ∧ (Episode.ofLook c pod).outcome = reconcile c pod := by
  have latencies : (Ledger.ofSamples samples).latencies ns =
      ((es.filterMap (·.report? ns)).map Report.total).sum := by
    rw [Ledger.latencies_ofSamples]
    exact Episode.sum_told told fun e member => Episode.weigh_latencies (arise e member) ns
  have requests : (Ledger.ofSamples samples).requests ns =
      ((es.filterMap (·.report? ns)).map Report.total).sum := by
    rw [Ledger.requests_ofSamples]
    exact Episode.sum_told told fun e member => Episode.weigh_requests (arise e member) ns
  have durations : (Ledger.ofSamples samples).durations ns =
      (es.filterMap (·.report? ns)).length := by
    rw [Ledger.durations_ofSamples,
      Episode.sum_told told fun e member => Episode.weigh_durations (arise e member) ns]
    simp
  have runs (success : Bool) : (Ledger.ofSamples samples).runs ns success =
      (es.filterMap (·.report? ns)).countP fun r => r.success = success := by
    rw [Ledger.runs_ofSamples,
      Episode.sum_told told fun e member => Episode.weigh_runs (arise e member) ns success,
      Episode.sum_indicator]
  refine ⟨latencies.trans requests.symm, requests, ?_, ?_, durations, ?_, ?_, ?_⟩
  · intro r member
    obtain ⟨e, member, report⟩ := List.mem_filterMap.1 member
    exact Episode.total_lt_of_report (arise e member) report
  · have parts := (es.filterMap (·.report? ns)).length_eq_countP_add_countP (·.success)
    rw [runs, runs, parts]
    simp
  · simpa using runs true
  · rintro e unmet
    have idle := Circumstances.plan?_eq_none_iff.2 unmet
    exact ⟨Episode.samples_of_idle idle, Episode.report?_of_idle idle⟩
  · exact fun c pod sending => ⟨Episode.arises_ofLook sending pod, Episode.outcome_ofLook c pod⟩

namespace Waiting

theorem arises_visiting : visiting.Arises := by
  intro other runs
  obtain rfl := Option.some.inj (plan?_visiting.symm.trans runs)
  have entered : Execution.Reachable plan ⟨{}, .running (.start 1 : Supervision Unit)⟩ :=
    .step .start (.enter rfl rfl)
  have sent : Execution.Reachable plan ⟨{}, .running { burst := (Burst.start 1).dispatch () }⟩ :=
    entered.turn rfl ⟨.dispatch () rfl (by decide), rfl⟩
  have answered : Execution.Reachable plan ⟨{}, .running { burst := served }⟩ :=
    sent.turn rfl ⟨.finish _ rfl rfl, rfl⟩
  exact .ran (.ofMillis 3) answered rfl (nomatch ·) rfl rfl

/-- What two looks at the pod tell, one behind the other. -/
def toldTwice : List Sample := visiting.outcome.samples ++ visiting.outcome.samples

/-- The ledger then shows two latencies and two requests. -/
theorem counters_of_two_looks :
    (Ledger.ofSamples toldTwice).latencies "shop" = 2 ∧
      (Ledger.ofSamples toldTwice).requests "shop" = 2 := by
  have told : toldTwice.Perm ([visiting, visiting].flatMap (·.outcome.samples)) := by
    simp [toldTwice]
  have arise : ∀ e ∈ [visiting, visiting], e.Arises := by
    intro e member
    rcases List.mem_pair.1 member with rfl | rfl <;> exact arises_visiting
  obtain ⟨latencies, requests, -⟩ := counters_agree arise told "shop"
  have sum : (([visiting, visiting].filterMap (·.report? "shop")).map
      fun r => r.completed + r.failed).sum = 2 := by rfl
  rw [latencies, requests, sum]
  exact ⟨rfl, rfl⟩

end Waiting
end WarmupGate.Controller
