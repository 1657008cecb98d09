import WarmupGate.Controller.Loop
import WarmupGate.Proofs.Controller.Shutdown

/-!
# When a pod is looked at again

A look at a pod ends in one of five ways, and each says what comes next. A pod is left until it
changes only if there is nothing to do for it any more, or nothing that this controller may do; a
pod that has to wait is looked at after the delay, and a record that was refused is tried again. So
a pod that waits for its warmup is never forgotten. The notice follows the record and nothing else.
How long a pod has to wait until its warmup succeeds is not bounded here.
-/
namespace WarmupGate.Controller
open Warmup

variable {c : Circumstances} {pod : Pod}

theorem record_of_ok (accepted : c.answer = .ok ()) (outcome : Outcome) :
    record c pod outcome =
      (.write (recorded pod outcome c.now) :: .publish outcome.notice :: closing pod outcome,
        .ok .awaitChange) := by
  simp [record, accepted]

theorem notices_record_of_error {fault : Cluster.WriteFault} (refused : c.answer = .error fault)
    (outcome : Outcome) : (record c pod outcome).1.filterMap Act.notice? = [] := by
  simp only [record, refused]
  split <;> rfl

theorem result_record_of_error {fault : Cluster.WriteFault} (refused : c.answer = .error fault)
    (outcome : Outcome) :
    (record c pod outcome).2 =
      if fault.gone then .ok .awaitChange else .error ⟨pod.ns, pod.name, fault⟩ := by
  simp only [record, refused]
  split <;> rfl

/-- The ways in which a look at a pod can end. -/
inductive Closes (c : Circumstances) (pod : Pod) (r : Reconciliation) : Prop
  /-- The pod is not ready for its warmup. -/
  | unready : pod.gateState ≠ .ready → r.writes = [] → r.notices = [] →
      r.result = .ok (if pod.gateState.requeues then .requeue c.requeueDelay else .awaitChange) →
      Closes c pod r
  | withheld : pod.gateState = .ready → Withheld c pod → r.writes = [] → r.notices = [] →
      r.result = .ok .awaitChange → Closes c pod r
  | accepted (before after : List Act) (written : List Condition) (notice : Notice) :
      pod.gateState = .ready → c.answer = .ok () →
      r.acts = before ++ .write written :: .publish notice :: after → r.writes = [written] →
      r.notices = [notice] → r.result = .ok .awaitChange → Closes c pod r
  /-- The record was not accepted, since the pod is gone or for another reason. -/
  | refused (written : List Condition) (fault : Cluster.WriteFault) :
      pod.gateState = .ready → c.answer = .error fault → r.writes = [written] → r.notices = [] →
      r.result = (if fault.gone then .ok .awaitChange else .error ⟨pod.ns, pod.name, fault⟩) →
      Closes c pod r

theorem result_reconcile_of_unready (unready : pod.gateState ≠ .ready) :
    (reconcile c pod).result =
      .ok (if pod.gateState.requeues then .requeue c.requeueDelay else .awaitChange) := by
  unfold reconcile
  split <;> simp_all [GateState.requeues]

theorem closes_of_withheld (ready : pod.gateState = .ready) (withheld : Withheld c pod) :
    Closes c pod (reconcile c pod) := by
  have flags := (withheld_iff c pod).2 withheld
  rw [Bool.and_eq_true] at flags
  obtain ⟨writes, notices⟩ := writes_reconciled (unseen_attempt c pod) c pod true
  obtain ⟨nothing, unsaid, result⟩ := conclude_of_withheld c pod flags.2
  have eq : reconcile c pod = (attempt c pod).reconciled c pod true := by
    rw [reconcile_of_ready ready, flags.1]
  rw [← eq] at writes notices
  refine .withheld ready withheld (writes.trans nothing) (notices.trans unsaid) ?_
  rw [eq]
  exact result

theorem closes_of_kept (ready : pod.gateState = .ready) (kept : ¬ Withheld c pod) :
    Closes c pod (reconcile c pod) := by
  let outcome := (attempt c pod).outcome
  have closed : conclude c pod ((attempt c pod).sawShutdown c) outcome = record c pod outcome := by
    rw [conclude, if_neg fun flags => kept ((withheld_iff c pod).1 flags)]
  obtain ⟨writes, notices⟩ :=
    writes_reconciled (unseen_attempt c pod) c pod ((attempt c pod).sawShutdown c)
  rw [← reconcile_of_ready ready, closed] at writes notices
  have written := writes.trans (acts_record c pod outcome).1
  have result : (reconcile c pod).result = (record c pod outcome).2 := by
    rw [reconcile_of_ready ready, Attempt.reconciled, closed]
  cases answer : c.answer with
  | ok _ =>
    have record : record c pod outcome = _ := record_of_ok answer outcome
    rw [record] at notices result
    refine .accepted (opening pod ++ (attempt c pod).acts) (closing pod outcome) _ outcome.notice
      ready answer ?_ written ?_ result
    · rw [reconcile_of_ready ready, Attempt.reconciled, closed, record]
    · rw [notices]
      exact congrArg (List.cons _) (filterMap_of_quiet (quiet_closing pod outcome)).2.2
  | error fault =>
    exact .refused _ fault ready answer written
      (notices.trans (notices_record_of_error answer outcome))
      (result.trans (result_record_of_error answer outcome))

theorem closes_reconcile (c : Circumstances) (pod : Pod) : Closes c pod (reconcile c pod) := by
  by_cases ready : pod.gateState = .ready
  · by_cases withheld : Withheld c pod
    · exact closes_of_withheld ready withheld
    · exact closes_of_kept ready withheld
  · obtain ⟨-, writes, notices⟩ := filterMap_of_quiet (quiet_reconcile (c := c) ready)
    exact .unready ready writes notices (result_reconcile_of_unready ready)

theorem requeues_iff (g : GateState) :
    g.requeues = true ↔
      (∃ phase, g = .notRunning phase) ∨ g = .containersNotReady ∨ g = .containersReadyPending := by
  cases g <;> simp [GateState.requeues]

theorem settled_iff (pod : Pod) :
    pod.gateState ≠ .ready ∧ pod.gateState.requeues = false ↔
      pod.hasGate = false ∨ pod.conditionHolds Pod.Key.warmupReady = true := by
  unfold Pod.gateState
  split
  · simp_all [GateState.requeues]
  · split
    · simp_all [GateState.requeues]
    · rename_i gated closed
      have waiting : ¬ (pod.hasGate = false ∨ pod.conditionHolds Pod.Key.warmupReady = true) := by
        simp_all
      split
      · simp [GateState.requeues, waiting]
      · split
        · simp [GateState.requeues, waiting]
        · split <;> simp [GateState.requeues, waiting]

theorem unsettled_of_ready (ready : pod.gateState = .ready) :
    ¬ (pod.hasGate = false ∨ pod.conditionHolds Pod.Key.warmupReady = true) :=
  fun settled => ((settled_iff pod).2 settled).1 ready

theorem awaits_iff (c : Circumstances) (pod : Pod) :
    (reconcile c pod).result = .ok .awaitChange ↔
      pod.hasGate = false ∨ pod.conditionHolds Pod.Key.warmupReady = true ∨
        ((reconcile c pod).writes ≠ [] ∧ c.answer = .ok ()) ∨
        ((reconcile c pod).writes ≠ [] ∧ ∃ fault, c.answer = .error fault ∧ fault.gone = true) ∨
        (pod.gateState = .ready ∧ Withheld c pod ∧ (reconcile c pod).writes = []) := by
  rw [← or_assoc]
  cases closes_reconcile c pod with
  | unready unready writes notices result =>
    rw [← settled_iff]
    cases again : pod.gateState.requeues <;> simp [unready, writes, result, again]
  | withheld ready withheld writes notices result =>
    simp [unsettled_of_ready ready, ready, withheld, writes, result]
  | accepted before after written notice ready answer acts writes notices result =>
    simp [answer, writes, result]
  | refused written fault ready answer writes notices result =>
    cases gone : fault.gone <;>
      simp [unsettled_of_ready ready, answer, writes, result, gone]

theorem requeues_result_iff (c : Circumstances) (pod : Pod) (delay : Span) :
    (reconcile c pod).result = .ok (.requeue delay) ↔
      delay = c.requeueDelay ∧ pod.gateState.requeues = true := by
  have ready_requeues (ready : pod.gateState = .ready) : pod.gateState.requeues = false := by
    rw [ready]
    rfl
  cases closes_reconcile c pod with
  | unready unready writes notices result =>
    cases again : pod.gateState.requeues with
    | false => simp [result, again]
    | true => simpa [result, again] using eq_comm
  | withheld ready withheld writes notices result => simp [result, ready_requeues ready]
  | accepted before after written notice ready answer acts writes notices result =>
    simp [result, ready_requeues ready]
  | refused written fault ready answer writes notices result =>
    cases gone : fault.gone <;> simp [result, gone, ready_requeues ready]

theorem fails_iff (c : Circumstances) (pod : Pod) (failure : Failure) :
    (reconcile c pod).result = .error failure ↔
      (reconcile c pod).writes ≠ [] ∧ ∃ fault, c.answer = .error fault ∧ fault.gone = false ∧
        failure = ⟨pod.ns, pod.name, fault⟩ := by
  cases closes_reconcile c pod with
  | unready unready writes notices result => simp [result, writes]
  | withheld ready withheld writes notices result => simp [result, writes]
  | accepted before after written notice ready answer acts writes notices result =>
    simp [result, answer]
  | refused written fault ready answer writes notices result =>
    cases gone : fault.gone with
    | true => simp [result, answer, gone]
    | false => simpa [result, writes, answer, gone] using eq_comm

theorem notices_iff (c : Circumstances) (pod : Pod) :
    ((reconcile c pod).notices.length = 1 ↔ (reconcile c pod).writes ≠ [] ∧ c.answer = .ok ()) ∧
      ((reconcile c pod).notices = [] ↔
        ¬ ((reconcile c pod).writes ≠ [] ∧ c.answer = .ok ())) := by
  cases closes_reconcile c pod with
  | unready unready writes notices result => simp [notices, writes]
  | withheld ready withheld writes notices result => simp [notices, writes]
  | accepted before after written notice ready answer acts writes notices result =>
    simp [notices, writes, answer]
  | refused written fault ready answer writes notices result => simp [notices, answer]

theorem notice_after_write {notice : Notice} (said : notice ∈ (reconcile c pod).notices) :
    ∃ before written after,
      (reconcile c pod).acts = before ++ .write written :: .publish notice :: after ∧
        (reconcile c pod).writes = [written] := by
  cases closes_reconcile c pod with
  | unready unready writes notices result => simp [notices] at said
  | withheld ready withheld writes notices result => simp [notices] at said
  | accepted before after written only ready answer acts writes notices result =>
    obtain rfl := List.mem_singleton.1 (notices ▸ said)
    exact ⟨before, written, after, acts, writes⟩
  | refused written fault ready answer writes notices result => simp [notices] at said

namespace Loop

variable {σ : Type}

/-- The circumstances of a look that the controller takes. -/
def circumstances (l : Loop σ) (pod : Pod) : Circumstances :=
  { executor := l.executor
    target := .ofList []
    answer := Cluster.StatusPatch.interpret pod (nextAnswer l.answers).1
    now := l.stamp
    requeueDelay := l.settings.requeueDelay }

/-- How long a pod is left alone after a look, if it is to be looked at again without news. -/
def delayAfter (errorDelay : Span) : Except Failure Action → Option Span
  | .ok .awaitChange => none
  | .ok (.requeue delay) => some delay
  | .error _ => some errorDelay

/-- The acts of a look change neither the clock nor the schedule. -/
structure SameSchedule (l k : Loop σ) : Prop where
  due : k.due = l.due
  clock : k.clock = l.clock
  settings : k.settings = l.settings

theorem sameSchedule_carryOut (l : Loop σ) (pod : Pod) (act : Act) :
    SameSchedule l (l.carryOut pod act).1 := by
  cases act with
  | log | measure | execute | publish => exact ⟨rfl, rfl, rfl⟩
  | write conditions =>
    unfold carryOut
    dsimp only
    split <;> exact ⟨rfl, rfl, rfl⟩

theorem sameSchedule_carryOutAll (l : Loop σ) (pod : Pod) (acts : List Act) :
    SameSchedule l (l.carryOutAll pod acts).1 := by
  suffices kept : ∀ done : Loop σ × Trace, SameSchedule l done.1 →
      SameSchedule l (acts.foldl (fun done act =>
        ((carryOut done.1 pod act).1, done.2 ++ (carryOut done.1 pod act).2)) done).1 from
    kept (l, {}) ⟨rfl, rfl, rfl⟩
  induction acts with
  | nil => exact fun _ h => h
  | cons act acts ih =>
    intro done h
    have next := sameSchedule_carryOut done.1 pod act
    exact ih _ ⟨next.due.trans h.due, next.clock.trans h.clock, next.settings.trans h.settings⟩

def entries (l : Loop σ) (key : PodKey) (delay : Option Span) : List (PodKey × Span) :=
  (delay.map fun delay => (key, ⟨l.now.nanos + delay.nanos⟩)).toList

theorem SameSchedule.due_requeue {l k : Loop σ} (same : SameSchedule l k) (key : PodKey)
    (delay : Span) :
    (k.schedule key (.requeue delay)).due = l.due ++ l.entries key (some delay) := by
  have now : k.now = l.now := congrArg Span.ofMillis same.clock
  rw [schedule, same.due, now]
  rfl

theorem look_of_ok {l : Loop σ} {key : PodKey} {pod : Pod} {action : Action}
    (result : (reconcile (l.circumstances pod) pod).result = .ok action) :
    (l.look key pod).1 =
      (l.carryOutAll pod (reconcile (l.circumstances pod) pod).acts).1.schedule key action := by
  unfold look
  dsimp only
  split
  · rename_i found
    cases found.symm.trans result
    rfl
  · rename_i found
    cases found.symm.trans result

theorem look_of_error {l : Loop σ} (key : PodKey) {pod : Pod} {failure : Failure}
    (result : (reconcile (l.circumstances pod) pod).result = .error failure) :
    ∃ k, SameSchedule l k ∧
      (l.look key pod).1 = k.schedule key (.requeue l.settings.errorDelay) := by
  have same := sameSchedule_carryOutAll l pod (reconcile (l.circumstances pod) pod).acts
  let done := (l.carryOutAll pod (reconcile (l.circumstances pod) pod).acts).1
  let k := (done.carryOut pod (retry pod failure done.settings.errorDelay).1).1
  refine ⟨k, same, ?_⟩
  unfold look
  dsimp only
  split
  · rename_i found
    cases found.symm.trans result
  · rename_i found
    cases found.symm.trans result
    exact congrArg (fun s : Settings => k.schedule key (.requeue s.errorDelay)) same.settings

theorem due_look (l : Loop σ) (key : PodKey) (pod : Pod) :
    (l.look key pod).1.due =
      l.due ++ l.entries key
        (delayAfter l.settings.errorDelay (reconcile (l.circumstances pod) pod).result) := by
  have same := sameSchedule_carryOutAll l pod (reconcile (l.circumstances pod) pod).acts
  cases result : (reconcile (l.circumstances pod) pod).result with
  | ok action =>
    rw [look_of_ok result]
    cases action with
    | awaitChange => exact same.due.trans (List.append_nil _).symm
    | requeue delay => exact same.due_requeue key delay
  | error failure =>
    obtain ⟨k, same, eq⟩ := look_of_error key result
    rw [eq]
    exact same.due_requeue key _

end Loop

theorem gone_iff (pod : Pod) (response : Cluster.Response) :
    (∃ fault, Cluster.StatusPatch.interpret pod response = .error fault ∧ fault.gone = true) ↔
      Cluster.StatusPatch.sendable pod = true ∧
        ∃ refusal, response.refusal? = some refusal ∧ refusal.code = 404 := by
  unfold Cluster.StatusPatch.interpret
  cases Cluster.StatusPatch.sendable pod with
  | false => simp [Cluster.WriteFault.gone]
  | true =>
    cases response.refusal? with
    | none => simp
    | some refusal =>
      by_cases conflict : refusal.code = 409
      · simp [Cluster.WriteFault.ofRefusal, Cluster.WriteFault.gone, conflict]
      · by_cases lost : refusal.code = 404 <;>
          simp [Cluster.WriteFault.ofRefusal, Cluster.WriteFault.gone, conflict, lost]

theorem conflict_of_code {response : Cluster.Response} {refusal : Cluster.Refusal}
    (sent : Cluster.StatusPatch.sendable pod = true) (refused : response.refusal? = some refusal)
    (code : refusal.code = 409) :
    Cluster.StatusPatch.interpret pod response = .error (.conflict pod.ns pod.name) := by
  rw [Cluster.StatusPatch.interpret, if_pos sent, refused]
  simp [Cluster.WriteFault.ofRefusal, code]

/-- What a look at a pod comes to. -/
structure Accounted (c : Circumstances) (pod : Pod) : Prop where
  awaits : (reconcile c pod).result = .ok .awaitChange ↔
    pod.hasGate = false ∨ pod.conditionHolds Pod.Key.warmupReady = true ∨
      ((reconcile c pod).writes ≠ [] ∧ c.answer = .ok ()) ∨
      ((reconcile c pod).writes ≠ [] ∧ ∃ fault, c.answer = .error fault ∧ fault.gone = true) ∨
      (pod.gateState = .ready ∧ Withheld c pod ∧ (reconcile c pod).writes = [])
  requeues (delay : Span) : (reconcile c pod).result = .ok (.requeue delay) ↔
    delay = c.requeueDelay ∧
      ((∃ phase, pod.gateState = .notRunning phase) ∨ pod.gateState = .containersNotReady ∨
        pod.gateState = .containersReadyPending)
  fails (failure : Failure) : (reconcile c pod).result = .error failure ↔
    (reconcile c pod).writes ≠ [] ∧ ∃ fault, c.answer = .error fault ∧ fault.gone = false ∧
      failure = ⟨pod.ns, pod.name, fault⟩
  notifies :
    ((reconcile c pod).notices.length = 1 ↔ (reconcile c pod).writes ≠ [] ∧ c.answer = .ok ()) ∧
      ((reconcile c pod).notices = [] ↔ ¬ ((reconcile c pod).writes ≠ [] ∧ c.answer = .ok ()))
  behind (notice : Notice) : notice ∈ (reconcile c pod).notices →
    ∃ before written after,
      (reconcile c pod).acts = before ++ .write written :: .publish notice :: after ∧
        (reconcile c pod).writes = [written]

/-- Every look at every pod is accounted for, whatever the run came to and whatever the cluster
answers: the pod is left until it changes only for one of five reasons, it is looked at after the
delay if and only if it is not ready for its warmup yet, and a record that was refused for another
reason than that the pod is gone is a failure, a lost race included. The failure is tried again
after the delay for failures. The controller enters just that into its schedule and nothing else. -/
theorem every_look_is_accounted_for (c : Circumstances) (pod : Pod) :
    Accounted c pod ∧
      (∀ response : Cluster.Response,
        ((∃ fault, Cluster.StatusPatch.interpret pod response = .error fault ∧
            fault.gone = true) ↔
          Cluster.StatusPatch.sendable pod = true ∧
            ∃ refusal, response.refusal? = some refusal ∧ refusal.code = 404) ∧
        ∀ refusal, Cluster.StatusPatch.sendable pod = true → response.refusal? = some refusal →
          refusal.code = 409 →
          Cluster.StatusPatch.interpret pod response = .error (.conflict pod.ns pod.name)) ∧
      (∀ failure delay, (retry pod failure delay).2 = .requeue delay) ∧
      ∀ {σ : Type} (l : Loop σ) (key : PodKey), (l.look key pod).1.due =
        l.due ++ l.entries key
          (Loop.delayAfter l.settings.errorDelay (reconcile (l.circumstances pod) pod).result) := by
  refine ⟨⟨awaits_iff c pod, fun delay => ?_, fails_iff c pod, notices_iff c pod,
    fun notice => notice_after_write⟩, fun response => ⟨gone_iff pod response, fun refusal =>
      conflict_of_code⟩, fun failure delay => rfl, fun l key => l.due_look key pod⟩
  rw [requeues_result_iff, requeues_iff]

end WarmupGate.Controller
