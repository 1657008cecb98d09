import WarmupGate.Proofs.Warmup.Cancellation
import WarmupGate.Proofs.Warmup.Happenings

/-!
# Reports are consistent

There are five ways out of an execution, and each makes its report from what it has at hand: there
was no address, the scope was over on entry, the loop broke down, it was cut short, or it has come
to its end. Whichever way was taken, and whatever the scope and the target have done, the fields of
the report fit together. Whether the latencies of a report fit is not said here.
-/
namespace WarmupGate.Warmup

open Relation

namespace Report

variable {r : Report}

theorem summary_of_none (error : r.error = none) (none : r.total = 0) :
    r.summary = "warmup skipped: no requests executed" := by
  simp [summary, error, none]

/-- How the summary of a run that has sent requests begins. -/
def opening (success : Bool) : String :=
  if success then "warmup completed: " else "warmup completed with failures: "

theorem exists_summary (error : r.error = none) (some : r.total ≠ 0) :
    ∃ rest, r.summary = opening r.success ++ Text.decimal r.completed ++ "/" ++
      Text.decimal r.total ++ " requests succeeded" ++ rest := by
  refine ⟨" (" ++ Binary64.oneDecimal r.successRate ++ "%), P50=" ++ r.p50.text ++
    ", P99=" ++ r.p99.text, ?_⟩
  have front : "warmup completed" ++ (if r.success then "" else " with failures") ++ ": " =
      opening r.success := by
    cases r.success <;> rfl
  have middle : " requests succeeded (" = " requests succeeded" ++ " (" := rfl
  simp only [summary, error, if_neg some, ← front, middle, String.append_assoc]

theorem eq_of_opening {a b : Bool} {s t : String} (same : opening a ++ s = opening b ++ t) :
    a = b := by
  have chars := congrArg String.toList same
  cases a <;> cases b <;> simp [opening] at chars ⊢

theorem opening_ne_skipped (success : Bool) (s : String) :
    opening success ++ s ≠ "warmup skipped: no requests executed" := by
  intro same
  have chars := congrArg String.toList same
  cases success <;> simp [opening] at chars

theorem summary_eq_skipped_iff (error : r.error = none) :
    r.summary = "warmup skipped: no requests executed" ↔ r.total = 0 := by
  constructor
  · intro skipped
    refine Classical.byContradiction fun some => ?_
    obtain ⟨rest, summary⟩ := exists_summary error some
    simp only [String.append_assoc] at summary
    exact opening_ne_skipped _ _ (summary.symm.trans skipped)
  · exact summary_of_none error

/-- The summary of a run that has sent requests speaks of failures if it was no success. -/
theorem summary_of_failures_iff (error : r.error = none) (some : r.total ≠ 0) :
    (∃ rest, r.summary = "warmup completed with failures: " ++ rest) ↔ r.success = false := by
  obtain ⟨rest, summary⟩ := exists_summary error some
  simp only [String.append_assoc] at summary
  rw [summary]
  constructor
  · rintro ⟨other, same⟩
    exact eq_of_opening (b := false) same
  · intro failure
    exact ⟨_, by rw [failure]; rfl⟩

end Report

variable {p : Plan} {report : Report}

/-- The fields of a report on the run of a plan fit together. -/
structure Report.Consistent (p : Plan) (r : Report) : Prop where
  success_iff : r.success = true ↔ r.error = none ∧ 1 ≤ r.completed
  address_iff : r.error = some .addressMissing ↔ p.address = none ∨ p.address = some ""
  total_le : r.total ≤ p.requests
  /-- The sum of the counts fits into a word if the number of requests does. -/
  total_lt : p.requests < Word.size 32 → r.total < Word.size 32
  total_eq : r.error = none → r.total = p.requests
  message_eq : r.error = none → r.message = r.summary
  skipped_iff : r.error = none →
    (r.message = "warmup skipped: no requests executed" ↔ p.requests = 0)
  failures_iff : r.error = none → p.requests ≠ 0 →
    ((∃ rest, r.message = "warmup completed with failures: " ++ rest) ↔ r.completed = 0)

theorem Plan.address_missing_iff (p : Plan) :
    p.address.filter (· ≠ "") = none ↔ p.address = none ∨ p.address = some "" := by
  cases p.address <;> simp

def Plan.Addressed (p : Plan) : Prop := ∃ address, p.address.filter (· ≠ "") = some address

theorem Plan.Addressed.ne_none (h : p.Addressed) : p.address.filter (· ≠ "") ≠ none := by
  obtain ⟨address, found⟩ := h
  intro missing
  cases missing.symm.trans found

/-- A report with an error is consistent if it claims no success and counts no more than was sent.
-/
theorem Report.Consistent.of_error {e : RunError} (error : report.error = some e)
    (success : report.success = false)
    (address : e = .addressMissing ↔ p.address.filter (· ≠ "") = none)
    (total : report.total ≤ p.requests) : report.Consistent p where
  success_iff := by simp [error, success]
  address_iff := by rw [error, Option.some_inj, address, p.address_missing_iff]
  total_le := total
  total_lt := Nat.lt_of_le_of_lt total
  total_eq none := by simp [error] at none
  message_eq none := by simp [error] at none
  skipped_iff none := by simp [error] at none
  failures_iff none := by simp [error] at none

theorem Report.Consistent.of_addressed {e : RunError} (found : p.Addressed)
    (error : report.error = some e) (other : e ≠ .addressMissing)
    (success : report.success = false) (total : report.total ≤ p.requests) :
    report.Consistent p :=
  .of_error error success
    ⟨fun same => absurd same other, fun missing => absurd missing found.ne_none⟩ total

/-- A report without an error is consistent if it counts all requests and says what it counts. -/
theorem Report.Consistent.of_total (error : report.error = none)
    (success : report.success = true ↔ 1 ≤ report.completed)
    (found : p.Addressed) (total : report.total = p.requests)
    (message : report.message = report.summary) : report.Consistent p where
  success_iff := by simp [error, success]
  address_iff := by
    rw [error, ← p.address_missing_iff]
    exact ⟨(nomatch ·), fun missing => absurd missing found.ne_none⟩
  total_le := Nat.le_of_eq total
  total_lt := Nat.lt_of_le_of_lt (Nat.le_of_eq total)
  total_eq _ := total
  message_eq _ := message
  skipped_iff _ := by rw [message, summary_eq_skipped_iff error, total]
  failures_iff _ some := by
    rw [message, summary_of_failures_iff error (total ▸ some), ← Bool.not_eq_true, success]
    omega

/-- How an execution may conclude, and with which report. -/
inductive Conclusion (p : Plan) : Report → Prop
  | addressMissing : p.address.filter (· ≠ "") = none →
      Conclusion p (Trial.refused .addressMissing Trial.addressMissingMessage).report
  | overAtStart (cause : Cause) : p.Addressed →
      Conclusion p (Trial.refused (.cancelled cause) Trial.cancelledMessage).report
  | brokeDown (tally : Tally) (elapsed : Span) : p.Addressed →
      Conclusion p (Trial.reportOf tally elapsed .overflowed)
  | cutShort {α : Type} {b : Burst α} (elapsed : Span) (cause : Cause) :
      p.Addressed → Burst.Reachable p.requests b →
      Conclusion p (Trial.reportOf b.tally elapsed (.stopped cause))
  | complete {α : Type} {b : Burst α} (elapsed : Span) : p.Addressed →
      Burst.Reachable p.requests b → b.running = false → b.stopped = false →
      Conclusion p (Trial.reportOf b.tally elapsed .complete)

theorem Conclusion.consistent (h : Conclusion p report) : report.Consistent p := by
  cases h with
  | addressMissing missing =>
    exact .of_error rfl rfl ⟨fun _ => missing, fun _ => rfl⟩ (Nat.zero_le _)
  | overAtStart cause found => exact .of_addressed found rfl (nomatch ·) rfl (Nat.zero_le _)
  | brokeDown tally elapsed found =>
    exact .of_addressed found rfl (nomatch ·) rfl (Nat.zero_le _)
  | @cutShort α b elapsed cause found reached =>
    have accounted := reached.accounted
    refine .of_addressed found rfl (nomatch ·) rfl ?_
    rw [Trial.total_stopped]
    exact Nat.le_trans accounted.recorded_le accounted.dispatched_le
  | @complete α b elapsed found reached halted going =>
    have full := Trial.fullReport_reportOf reached.accounted halted going elapsed
    exact .of_total full.error decide_eq_true_iff found full.total full.message

theorem Watch.err_ne_none_iff {w : Watch} :
    w.err ≠ none ↔ w.cancelled = true ∨ w.expired = true := by
  unfold err
  cases w.cancelled <;> cases w.expired <;> simp

namespace Execution

variable {α : Type} {w : Watch} {s : Supervision α} {e f : Execution α}

/-- An execution that has begun its run has an address, and its report is made on one of the ways
out. -/
def Concluding (p : Plan) : Stage α → Prop
  | .entering => True
  | .running _ => p.Addressed
  | .ended report => Conclusion p report

theorem Reachable.conclusion_of_leave (reached : Reachable p ⟨w, .running s⟩)
    (found : p.Addressed) (halted : s.burst.running = false)
    (elapsed : Span) : Conclusion p (Trial.reportOf s.burst.tally elapsed s.finish) := by
  cases broke : s.broken with
  | true =>
    rw [Supervision.finish_of_broken broke]
    exact .brokeDown _ elapsed found
  | false =>
    cases told : s.told with
    | none =>
      rw [Supervision.finish_of_untold broke told]
      exact .complete elapsed found reached.burst halted (reached.going told broke)
    | some cause =>
      rw [Supervision.finish_of_told broke told]
      exact .cutShort elapsed cause found reached.burst

theorem Reachable.concluding_step (reached : Reachable p e) (h : Concluding p e.stage)
    (step : Step p e f) : Concluding p f.stage := by
  cases step with
  | cancel | expire | work => exact h
  | refuse w missing => exact .addressMissing missing
  | overAtStart found past => exact .overAtStart _ ⟨_, found⟩
  | enter found live => exact ⟨_, found⟩
  | leave elapsed halted found => exact reached.conclusion_of_leave h halted elapsed

theorem Reachable.concluding (h : Reachable p e) : Concluding p e.stage := by
  induction h with
  | start => trivial
  | step reached step ih => exact reached.concluding_step ih step

/-- An execution whose scope is over has not begun its run, or was refused. -/
def TurnedAway (e : Execution α) : Prop :=
  e.watch.err ≠ none ∧ (e.stage = .entering ∨
    ∃ cause, e.stage = .ended (Trial.refused (.cancelled cause) Trial.cancelledMessage).report)

theorem TurnedAway.step (h : e.TurnedAway) (found : p.Addressed)
    (step : Step p e f) : f.TurnedAway := by
  obtain ⟨closed, stage⟩ := h
  cases step with
  | cancel => exact ⟨Watch.err_ne_none_iff.2 (.inl rfl), stage⟩
  | expire => exact ⟨Watch.err_ne_none_iff.2 (.inr rfl), stage⟩
  | refuse w missing => exact absurd missing found.ne_none
  | overAtStart address past => exact ⟨closed, .inr ⟨_, rfl⟩⟩
  | enter address live => exact absurd live closed
  | work step => rcases stage with entering | ⟨cause, ended⟩ <;> contradiction
  | leave elapsed halted found => rcases stage with entering | ⟨cause, ended⟩ <;> contradiction

theorem Later.turnedAway (later : Later p ⟨w, .entering⟩ f) (closed : w.err ≠ none)
    (found : p.Addressed) : f.TurnedAway := by
  induction later with
  | refl => exact ⟨closed, .inl rfl⟩
  | tail _ step ih => exact ih.step found step

end Execution

namespace Trial

variable {limits : Limits} {target : Target} {trial : Trial}

/-- What may be seen of an execution has a report that was made on one of the ways out. -/
theorem Arises.conclusion (h : Arises p trial) : Conclusion p trial.report := by
  cases h with
  | addressMissing missing => exact .addressMissing missing
  | overAtStart cause found => exact .overAtStart cause ⟨_, found⟩
  | ran elapsed reached halted breaks report samples =>
    rw [report]
    exact reached.conclusion_of_leave reached.concluding halted elapsed

theorem conclusion_ofEnd {address : String} {c : Course} {t : Timeline} {e : Timeline × Finish}
    (found : p.Addressed) (plan : c.plan = p) (reached : Timeline.Reachable c t)
    (ends : Timeline.Ends c t e) : Conclusion p (ofEnd p address e).report := by
  subst plan
  obtain ⟨burst, going⟩ := reached.burst
  cases ends with
  | complete halted => exact .complete _ found burst halted going
  | stop running => exact .cutShort _ _ found (burst.step (.stop running))
  | told => exact .cutShort _ _ found burst
  | breakDown => exact .brokeDown .empty _ found

theorem MayBring.conclusion (h : MayBring p limits target trial) : Conclusion p trial.report := by
  cases h with
  | addressMissing missing => exact .addressMissing missing
  | overAtStart found past => exact .overAtStart _ ⟨_, found⟩
  | ran found live allows reached ends =>
    exact conclusion_ofEnd ⟨_, found⟩ rfl reached ends

theorem MayBring.eq_refused (h : MayBring p limits target trial) {cause : Cause}
    (found : p.Addressed) (closed : limits.overAtStart = some cause) :
    trial = refused (.cancelled cause) cancelledMessage := by
  cases h with
  | addressMissing missing => exact absurd missing found.ne_none
  | overAtStart _ past =>
    cases past.symm.trans closed
    rfl
  | ran _ live => cases live.symm.trans closed

end Trial

/-- The fields of every report on the run of a plan fit together, whatever its scope and its target
have done and in whatever order, and whichever way out was taken. A plan with an address whose scope
is over on entry is refused as cancelled, and sends nothing. Both hold of executions without a clock
and of trials on the clock. -/
theorem reports_are_consistent (p : Plan) :
    (∀ (α : Type) (w : Watch) (report : Report),
        Execution.Reachable p (⟨w, .ended report⟩ : Execution α) → report.Consistent p) ∧
      (∀ (α : Type) (w : Watch) (e : Execution α), p.Addressed → w.err ≠ none →
        Execution.Later p ⟨w, .entering⟩ e → e.TurnedAway) ∧
      (∀ limits target, (Trial.run p limits target).report.Consistent p) ∧
      (∀ limits target trial, Trial.MayBring p limits target trial →
        trial.report.Consistent p) ∧
      ∀ (f : Forest) (s : Scope) (cancelAt : Option Nat) (target : Target) (trial : Trial),
        p.Addressed → f.err s ≠ none → Trial.MayBring p (f.limits s cancelAt) target trial →
        ∃ cause, trial = Trial.refused (.cancelled cause) Trial.cancelledMessage ∧
          (cancelAt ≠ some 0 → f.err s = some cause) := by
  refine ⟨fun α w report reached => (Execution.Reachable.concluding reached).consistent,
    fun α w e found closed later => later.turnedAway closed found,
    fun limits target => (Trial.mayBring_run p limits target).conclusion.consistent,
    fun limits target trial brought => brought.conclusion.consistent, ?_⟩
  intro f s cancelAt target trial found closed brought
  obtain ⟨cause, past, own⟩ := f.exists_overAtStart s cancelAt closed
  exact ⟨cause, brought.eq_refused found past, own⟩

namespace Execution

/-- A run that is cut short with one success does not count as one, and does not count all. -/
theorem Midway.reports_are_consistent_midway :
    Reachable Midway.plan
        (⟨{ expired := true }, .ended Midway.report⟩ : Execution Unit) ∧
      Midway.report.completed = 1 ∧ Midway.report.success = false ∧
      Midway.report.total < Midway.plan.requests ∧ Midway.report.Consistent Midway.plan := by
  obtain ⟨executions, -⟩ := reports_are_consistent Midway.plan
  have reached := Midway.reachable_told.later Midway.later_report
  exact ⟨reached, rfl, rfl, by decide, executions Unit _ _ reached⟩

end Execution
end WarmupGate.Warmup
