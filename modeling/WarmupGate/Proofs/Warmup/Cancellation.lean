import Mathlib.Logic.Relation
import WarmupGate.Proofs.Warmup.Execution

/-!
# Runs that are cut short

A loop that was told to stop ends at most the turn that it had begun. After that it sends nothing,
records nothing and gives up what is in flight. The report waits for the loop: it is no success,
names the cause for which the scope ended, and counts what was recorded by then. A loop that the
supervisor finds over is reported by how it ended. On the clock no request arrives from the moment
on at which the scope ends. A loop that breaks down is reported as broken down, whether it was told
or not; when a loop breaks down is not said here.
-/
namespace WarmupGate.Warmup

open Relation

namespace Supervision

variable {α : Type} {w : Watch} {cause : Cause} {s t u : Supervision α}

/-- What a loop that was told to stop in one state may have come to in another. -/
structure Winding (cause : Cause) (s t : Supervision α) : Prop where
  told : t.told = some cause
  lastTurn : ∃ last, (last = s.burst ∨ s.inTurn = true ∧ Burst.Step s.burst last) ∧
    (t.burst = last ∨ t.burst = last.stop)
  begun : t.inTurn = true → t.burst.running = true → s.inTurn = true ∧ t.burst = s.burst

theorem Winding.refl (told : s.told = some cause) : Winding cause s s where
  told := told
  lastTurn := ⟨s.burst, .inl rfl, .inl rfl⟩
  begun turn _ := ⟨turn, rfl⟩

theorem Winding.lastTurn_stop (h : Winding cause s t) :
    ∃ last, (last = s.burst ∨ s.inTurn = true ∧ Burst.Step s.burst last) ∧
      (t.burst.stop = last ∨ t.burst.stop = last.stop) := by
  obtain ⟨last, turn, eq | eq⟩ := h.lastTurn
  · exact ⟨last, turn, .inr (by rw [eq])⟩
  · exact ⟨last, turn, .inr (by rw [eq, Burst.stop_stop])⟩

theorem Winding.step (h : Winding cause s t) (step : Step w t u) : Winding cause s u := by
  have told := h.told
  cases step with
  | look running idle untold => simp [untold] at told
  | halt running idle stop =>
    exact ⟨told, h.lastTurn_stop, fun turn => absurd turn (by simp [idle])⟩
  | turn turn step going =>
    -- the only turn that is left is the one that was begun before the word
    obtain ⟨begun, same⟩ := h.begun turn (Burst.running_of_step step)
    exact ⟨told, ⟨_, .inr ⟨begun, same ▸ step⟩, .inl rfl⟩, (nomatch ·)⟩
  | wait turn => exact ⟨told, h.lastTurn, (nomatch ·)⟩
  | breakDown running => exact ⟨told, h.lastTurn_stop, fun _ => (nomatch ·)⟩
  | find running untold => simp [untold] at told
  | pass found => exact ⟨told, h.lastTurn, h.begun⟩
  | tell found untold ends => simp [untold] at told

theorem Winding.same (h : Winding cause s t) (idle : s.inTurn = false) :
    t.burst.dispatched = s.burst.dispatched ∧ t.burst.recorded = s.burst.recorded ∧
      t.burst.samples = s.burst.samples := by
  obtain ⟨last, same | ⟨turn, -⟩, eq | eq⟩ := h.lastTurn
  · simp [eq, same]
  · simp [eq, same, Burst.stop]
  all_goals simp [idle] at turn

end Supervision

namespace Execution

variable {α : Type} {p : Plan} {w w' : Watch} {cause : Cause} {s t : Supervision α}
  {e f : Execution α} {report : Report}

/-- One state of an execution, and another that it may come to. -/
abbrev Later (p : Plan) : Execution α → Execution α → Prop := ReflTransGen (Step p)

theorem Reachable.later (h : Reachable p e) (later : Later p e f) : Reachable p f := by
  induction later with
  | refl => exact h
  | tail _ step ih => exact ih.step step

/-- A stage of a run that has begun, with a property of its loop for as long as it runs. -/
def Begun (P : Supervision α → Prop) : Stage α → Prop
  | .entering => False
  | .running s => P s
  | .ended _ => True

theorem Begun.step {P : Supervision α → Prop}
    (keeps : ∀ w s t, P s → Supervision.Step w s t → P t) (h : Begun P e.stage)
    (step : Step p e f) : Begun P f.stage := by
  cases step with
  | cancel w stage => exact h
  | expire w stage => exact h
  | work step => exact keeps _ _ _ h step
  | leave elapsed halted found => trivial
  | refuse | overAtStart | enter => exact h.elim

/-- What every step of the loop and its supervisor keeps holds for as long as the loop runs. -/
theorem Later.begun {P : Supervision α → Prop}
    (keeps : ∀ w s t, P s → Supervision.Step w s t → P t)
    (later : Later p ⟨w, .running s⟩ f) (h : P s) : Begun P f.stage := by
  induction later with
  | refl => exact h
  | tail _ step ih => exact ih.step keeps step

theorem Later.not_entering (later : Later p ⟨w, .running s⟩ f) : f.stage ≠ .entering := by
  have begun := Later.begun (fun _ _ _ _ _ => trivial) later (show (fun _ => True) s from trivial)
  intro entering
  rw [entering] at begun
  exact begun

theorem Later.exists_last (later : Later p ⟨w, .running s⟩ ⟨w', .ended report⟩) :
    ∃ (v : Watch) (t : Supervision α) (elapsed : Span), Later p ⟨w, .running s⟩ ⟨v, .running t⟩ ∧
      t.burst.running = false ∧ report = Trial.reportOf t.burst.tally elapsed t.finish := by
  generalize eq : (⟨w', .ended report⟩ : Execution α) = e at later
  induction later generalizing w' with
  | refl => cases eq
  | tail later step ih =>
    cases step with
    | cancel v stage =>
      cases eq
      exact ih rfl
    | expire v stage =>
      cases eq
      exact ih rfl
    | leave elapsed halted found =>
      cases eq
      exact ⟨_, _, elapsed, later, halted, rfl⟩
    | refuse => exact absurd rfl (Later.not_entering later)
    | overAtStart => exact absurd rfl (Later.not_entering later)
    | enter => cases eq
    | work => cases eq

/-- What holds when a run begins, and is kept by its loop, its supervisor and the scope around them,
holds of every run. -/
theorem Reachable.within {Q : Watch → Supervision α → Prop} (start : ∀ w, Q w (.start p.requests))
    (cancel : ∀ w s, Q w s → Q { w with cancelled := true } s)
    (expire : ∀ w s, Q w s → Q { w with expired := true } s)
    (work : ∀ w s t, Reachable p ⟨w, .running s⟩ → Q w s → Supervision.Step w s t → Q w t)
    (h : Reachable p ⟨w, .running s⟩) : Q w s := by
  have within : ∀ e : Execution α, Reachable p e → ∀ s, e.stage = .running s → Q e.watch s := by
    intro e h
    induction h with
    | start => exact fun _ running => by cases running
    | step reached step ih =>
      intro s running
      cases step with
      | cancel w stage => exact cancel w s (ih s running)
      | expire w stage => exact expire w s (ih s running)
      | enter address live =>
        cases running
        exact start _
      | work step =>
        cases running
        exact work _ _ _ reached (ih _ rfl) step
      | refuse | overAtStart | leave => cases running
  exact within _ h s rfl

theorem Reachable.burst (h : Reachable p ⟨w, .running s⟩) : Burst.Reachable p.requests s.burst := by
  refine h.within (Q := fun _ s => Burst.Reachable p.requests s.burst) (fun _ => .start)
    (fun _ _ h => h) (fun _ _ h => h) ?_
  intro w s t _ before step
  cases step with
  | look | wait | find | pass | tell => exact before
  | halt running | breakDown running => exact before.step (.stop running)
  | turn turn step going => exact before.step step

theorem Reachable.mayEnd (h : Reachable p ⟨w, .running s⟩) (told : s.told = some cause) :
    w.MayEnd cause := by
  refine h.within (Q := fun w s => ∀ cause, s.told = some cause → w.MayEnd cause)
    (fun _ _ => (nomatch ·)) ?_ ?_ ?_ cause told
  · intro w s h cause told
    cases cause with
    | canceled => rfl
    | deadline => exact h .deadline told
  · intro w s h cause told
    cases cause with
    | canceled => exact h .canceled told
    | deadline => rfl
  · intro w s t _ h step cause told
    cases step with
    | tell found untold ends =>
      cases told
      exact ends
    | look | halt | turn | wait | breakDown | find | pass => exact h cause told

theorem Reachable.going (h : Reachable p ⟨w, .running s⟩) (untold : s.told = none)
    (sound : s.broken = false) : s.burst.stopped = false := by
  refine h.within (Q := fun _ s => s.told = none → s.broken = false → s.burst.stopped = false)
    (fun _ _ _ => rfl) (fun _ _ h => h) (fun _ _ h => h) ?_ untold sound
  intro w s t _ h step untold sound
  cases step with
  | look | wait | find | pass => exact h untold sound
  | tell => cases untold
  | halt running idle told => simp [told] at untold
  | turn turn step going => exact going
  | breakDown => cases sound

theorem exists_aside (p : Plan) (w : Watch) (s : Supervision α) :
    ∃ t : Supervision α, Later p ⟨w, .running s⟩ ⟨w, .running t⟩ ∧ t.burst = s.burst ∧
      t.inTurn = s.inTurn ∧ t.told = s.told ∧ t.found = false := by
  cases found : s.found with
  | false => exact ⟨s, .refl, rfl, rfl, rfl, found⟩
  | true => exact ⟨_, .single (.work (.pass found)), rfl, rfl, rfl, rfl⟩

theorem exists_end (p : Plan) (w : Watch) (told : s.told = some cause) :
    ∃ report, Later p ⟨w, .running s⟩ ⟨w, .ended report⟩ := by
  obtain ⟨s', aside, burst, turn, word, found⟩ := exists_aside p w s
  rw [told] at word
  cases running : s'.burst.running with
  | false => exact ⟨_, aside.tail (.leave .zero running found)⟩
  | true =>
    have idle : ∃ t : Supervision α, Later p ⟨w, .running s⟩ ⟨w, .running t⟩ ∧
        t.burst.running = true ∧ t.inTurn = false ∧ t.told = some cause ∧ t.found = false := by
      cases turn : s'.inTurn with
      | false => exact ⟨s', aside, running, turn, word, found⟩
      | true => exact ⟨_, aside.tail (.work (.wait turn)), running, rfl, word, found⟩
    obtain ⟨t, later, running, turn, told, found⟩ := idle
    exact ⟨_, (later.tail (.work (.halt running turn told))).tail (.leave .zero rfl found)⟩

end Execution

variable {α : Type} {quota : Nat} {b : Burst α}

/-- The report on a run that was cut short says so, and counts the records of its loop. -/
structure CutReport (cause : Cause) (b : Burst α) (report : Report) : Prop where
  success : report.success = false
  error : report.error = some (.cancelled cause)
  message : report.message = "warmup cancelled"
  completed : report.completed = b.recorded.countP (fun r => decide r.2.IsSuccess)
  failed : report.failed = b.recorded.countP (fun r => decide ¬ r.2.IsSuccess)
  total_le : report.total ≤ b.dispatched

/-- The report on a run that took its course counts all requests, and is a success if one was. -/
structure FullReport (quota : Nat) (b : Burst α) (report : Report) : Prop where
  error : report.error = none
  success : report.success = true ↔ ∃ r ∈ b.recorded, r.2.IsSuccess
  total : report.total = quota
  message : report.message = report.summary

namespace Trial

theorem total_measured (b : Burst α) (elapsed : Span) :
    (measured b.tally elapsed).total = b.recorded.length := by
  obtain ⟨-, successes, failures⟩ := b.tally_counts
  have all := List.length_eq_countP_add_countP (fun r : Nat × Hit => decide r.2.IsSuccess)
    (l := b.recorded)
  simp only [Report.total, measured, successes, failures, all]
  simp

theorem total_stopped (b : Burst α) (elapsed : Span) (cause : Cause) :
    (reportOf b.tally elapsed (.stopped cause)).total = b.recorded.length :=
  total_measured b elapsed

theorem cutReport_reportOf (accounted : b.Accounted quota) (elapsed : Span) (cause : Cause) :
    CutReport cause b (reportOf b.tally elapsed (.stopped cause)) where
  success := rfl
  error := rfl
  message := rfl
  completed := b.tally_counts.2.1
  failed := b.tally_counts.2.2
  total_le := by
    rw [total_stopped]
    exact accounted.recorded_le

theorem fullReport_reportOf (accounted : b.Accounted quota) (halted : b.running = false)
    (going : b.stopped = false) (elapsed : Span) :
    FullReport quota b (reportOf b.tally elapsed .complete) where
  error := rfl
  success := by simp [reportOf, b.tally_counts.2.1, List.countP_pos_iff]
  total := by
    have all := (accounted.recorded_perm halted going).length_eq
    rw [List.length_map, List.length_range] at all
    exact (total_measured b elapsed).trans all
  message := rfl

end Trial

namespace Trial

/-- A run on the clock whose scope ends at some moment has lasted until then and is cut short, or is
over before and is not. -/
structure Bounded (moment : Nat) (cause : Cause) (trial : Trial) : Prop where
  arrivals : ∀ a ∈ trial.arrivals, a.millis < moment
  ends : (trial.lasted = moment ∧ trial.report.success = false ∧
      trial.report.error = some (.cancelled cause) ∧ trial.report.message = "warmup cancelled" ∧
      trial.report.total = trial.samples.length) ∨
    trial.lasted < moment ∧ ∀ cause, trial.report.error ≠ some (.cancelled cause)

theorem ending_pos {limits : Limits} {moment : Nat} {cause : Cause}
    (live : limits.overAtStart = none) (ending : limits.ending = some (moment, cause)) :
    0 < moment := by
  rw [Limits.overAtStart, ending] at live
  cases moment with
  | zero => cases live
  | succ => exact Nat.succ_pos _

theorem bounded_runAt (p : Plan) (address : String) (target : Target) {limits : Limits}
    {moment : Nat} {cause : Cause} (ending : limits.ending = some (moment, cause))
    (pos : 0 < moment) : Bounded moment cause (runAt p address limits target) := by
  let c := course p address limits target
  have start : (Timeline.start p.requests).Before moment := ⟨pos, fun _ none => (nomatch none)⟩
  obtain ⟨arrivals, ends⟩ := Timeline.run_before c _ ending start
  refine ⟨fun a ha => arrivals a (List.mem_reverse.1 ha), ?_⟩
  rcases ends with ⟨stopped, now⟩ | ⟨free, now⟩
  · have accounted := (Timeline.reachable_run c (Timeline.start p.requests)
      (Timeline.followable_start _) .start).accounted
    have report : (runAt p address limits target).report = reportOf _ _ _ := rfl
    rw [stopped] at report
    refine .inl ⟨now, ?_⟩
    rw [report]
    refine ⟨rfl, rfl, rfl, (total_stopped ..).trans ?_⟩
    simp [runAt, c, accounted.samples_eq]
  · refine .inr ⟨now, fun cause error => free cause ?_⟩
    exact (error_reportOf _ _ _ _).1 error

theorem bounded_run {p : Plan} {address : String} {limits : Limits} {moment : Nat} {cause : Cause}
    (found : p.address.filter (· ≠ "") = some address)
    (ending : limits.ending = some (moment, cause)) (target : Target) :
    Bounded moment cause (run p limits target) := by
  rcases run_cases p limits target with
    ⟨missing, -⟩ | ⟨address, cause', -, past, eq⟩ | ⟨address, -, live, eq⟩
  · cases missing.symm.trans found
  · cases (Limits.ending_of_overAtStart past).symm.trans ending
    rw [eq]
    exact ⟨fun _ none => (nomatch none), .inl ⟨rfl, rfl, rfl, rfl, rfl⟩⟩
  · rw [eq]
    exact bounded_runAt p address target ending (ending_pos live ending)

end Trial

namespace Execution

variable {p : Plan} {w : Watch} {cause : Cause} {s : Supervision α}

/-- What follows when the supervisor has told a loop to stop. -/
structure CutShort (p : Plan) (w : Watch) (s : Supervision α) (cause : Cause) : Prop where
  cause_holds : w.MayEnd cause
  /-- The loop ends at most the turn that it had begun, and then stops. -/
  lastTurn : ∀ w' t, Later p ⟨w, .running s⟩ ⟨w', .running t⟩ →
    ∃ last, (last = s.burst ∨ s.inTurn = true ∧ Burst.Step s.burst last) ∧
      (t.burst = last ∨ t.burst = last.stop)
  /-- If it had not begun a turn, nothing is sent or recorded any more. -/
  nothingMore : s.inTurn = false → ∀ w' t, Later p ⟨w, .running s⟩ ⟨w', .running t⟩ →
    t.burst.dispatched = s.burst.dispatched ∧ t.burst.recorded = s.burst.recorded ∧
      t.burst.samples = s.burst.samples
  ends : ∃ report, Later p ⟨w, .running s⟩ ⟨w, .ended report⟩
  /-- The report waits for the loop to be over, with nothing left in flight. -/
  report : ∀ w' report, Later p ⟨w, .running s⟩ ⟨w', .ended report⟩ →
    ∃ v t, Later p ⟨w, .running s⟩ ⟨v, .running t⟩ ∧ t.burst.running = false ∧
      t.burst.inFlight = [] ∧
      (t.broken = false → CutReport cause t.burst report) ∧
      (t.broken = true → report.success = false ∧ report.error = some (.task Trial.overflowDetail))

/-- What follows when the supervisor has not told a loop to stop and finds it over. -/
structure LeftAlone (p : Plan) (w : Watch) (s : Supervision α) : Prop where
  full : s.broken = false → ∀ w' report, Later p ⟨w, .running s⟩ ⟨w', .ended report⟩ →
    FullReport p.requests s.burst report
  broken : s.broken = true → ∀ w' report, Later p ⟨w, .running s⟩ ⟨w', .ended report⟩ →
    report.success = false ∧ report.error = some (.task Trial.overflowDetail)

theorem Reachable.cutShort (reached : Reachable p ⟨w, .running s⟩) (told : s.told = some cause) :
    CutShort p w s cause where
  cause_holds := reached.mayEnd told
  lastTurn w' t later :=
    (Later.begun (fun _ _ _ h step => h.step step) later (Supervision.Winding.refl told)).lastTurn
  nothingMore idle w' t later :=
    (Later.begun (fun _ _ _ h step => h.step step) later (Supervision.Winding.refl told)).same idle
  ends := exists_end p w told
  report w' report later := by
    obtain ⟨v, t, elapsed, before, halted, rfl⟩ := Later.exists_last later
    have burst := (reached.later before).burst
    have winding : Supervision.Winding cause s t :=
      Later.begun (fun _ _ _ h step => h.step step) before (Supervision.Winding.refl told)
    refine ⟨v, t, before, halted, burst.inFlight_of_halted halted, fun sound => ?_,
      fun broken => ?_⟩
    · rw [Supervision.finish_of_told sound winding.told]
      exact Trial.cutReport_reportOf burst.accounted elapsed cause
    · rw [Supervision.finish_of_broken broken]
      exact ⟨rfl, rfl⟩

/-- Nothing moves in a loop that is over and was not told to stop, once the supervisor is back from
its look at the scope. -/
theorem settled_of_later {w' : Watch} {t : Supervision α} (untold : s.told = none)
    (aside : s.found = false) (halted : s.burst.running = false)
    (later : Later p ⟨w, .running s⟩ ⟨w', .running t⟩) :
    t.burst = s.burst ∧ t.told = none ∧ t.broken = s.broken := by
  have settled := Later.begun
    (P := fun t => t.burst = s.burst ∧ t.told = none ∧ t.broken = s.broken ∧ t.found = false) ?_
    later ⟨rfl, untold, rfl, aside⟩
  · exact ⟨settled.1, settled.2.1, settled.2.2.1⟩
  intro w t u h step
  have ended : t.burst.running = false := h.1 ▸ halted
  cases step with
  | wait turn => exact h
  | turn turn step going => simp [Burst.running_of_step step] at ended
  | pass found | tell found => simp [h.2.2.2] at found
  | look running | halt running | breakDown running | find running => simp [running] at ended

theorem Reachable.leftAlone (reached : Reachable p ⟨w, .running s⟩) (untold : s.told = none)
    (aside : s.found = false) (halted : s.burst.running = false) : LeftAlone p w s := by
  have reports : ∀ w' report, Later p ⟨w, .running s⟩ ⟨w', .ended report⟩ →
      ∃ elapsed, report = Trial.reportOf s.burst.tally elapsed s.finish := by
    intro w' report later
    obtain ⟨v, t, elapsed, before, -, rfl⟩ := Later.exists_last later
    obtain ⟨burst, told, broken⟩ := settled_of_later untold aside halted before
    exact ⟨elapsed, by rw [Supervision.finish, Supervision.finish, burst, told, broken, untold]⟩
  constructor
  · intro sound w' report later
    obtain ⟨elapsed, rfl⟩ := reports w' report later
    rw [Supervision.finish_of_untold sound untold]
    exact Trial.fullReport_reportOf reached.burst.accounted halted (reached.going untold sound) _
  · intro broken w' report later
    obtain ⟨elapsed, rfl⟩ := reports w' report later
    rw [Supervision.finish_of_broken broken]
    exact ⟨rfl, rfl⟩

/-- A run is cut short from the word to stop on: the loop may end the turn that it had begun, and
nothing is sent or recorded after that; what was in flight is given up before the report, which is
no success, names the cause and counts what was recorded. A loop that the supervisor finds over is
reported in full. A loop that has broken down is reported as such in both cases. On the clock a run
is cut short exactly if it has not ended before its scope, and at that moment. -/
theorem cancellation_is_exact (reached : Reachable p ⟨w, .running s⟩) :
    (∀ cause, s.told = some cause → CutShort p w s cause) ∧
      (s.told = none → s.found = false → s.burst.running = false → LeftAlone p w s) ∧
      ∀ address limits moment cause target, p.address.filter (· ≠ "") = some address →
        limits.ending = some (moment, cause) →
        Trial.Bounded moment cause (Trial.run p limits target) := by
  refine ⟨fun cause told => reached.cutShort told, reached.leftAlone, ?_⟩
  intro address limits moment cause target found ending
  exact Trial.bounded_run found ending target

namespace Midway

/-- One request was answered, and a second one is in flight. -/
def burst : Burst Unit :=
  (((Burst.start 3).dispatch ()).finish [] [] 0
    { latency := .ofMillis 4, status := some 200 }).dispatch ()

def plan : Plan := { requests := 3, address := some "10.0.0.1" }

/-- The deadline passes while the loop is in a turn. -/
def told : Supervision Unit := { burst, inTurn := true, told := some .deadline }

/-- The third request is still sent in this turn. -/
def sent : Supervision Unit := { told with burst := burst.dispatch (), inTurn := false }

def report : Report := Trial.reportOf sent.burst.stop.tally (.ofMillis 9) (.stopped .deadline)

theorem reachable_told : Reachable plan ⟨{ expired := true }, .running told⟩ := by
  have first : Reachable plan _ :=
    (Reachable.start.step (.enter rfl rfl)).turn rfl ⟨.dispatch () rfl (by decide), rfl⟩
  have answered : Reachable plan _ :=
    first.turn rfl ⟨.finish { latency := .ofMillis 4, status := some 200 } rfl rfl, rfl⟩
  have second : Reachable plan ⟨{}, .running { burst }⟩ :=
    answered.turn rfl ⟨.dispatch () rfl (by decide), rfl⟩
  have begun := (second.step (.work (.look rfl rfl rfl))).step (.expire _ _)
  exact (begun.step (.work (.find rfl rfl))).step
    (.work (.tell rfl rfl (show Watch.MayEnd _ .deadline from rfl)))

theorem later_report :
    Later plan ⟨{ expired := true }, .running told⟩ ⟨{ expired := true }, .ended report⟩ := by
  have turn : Later plan ⟨{ expired := true }, .running told⟩
      ⟨{ expired := true }, .running sent⟩ :=
    .single (.work (.turn rfl (.dispatch () rfl (by decide)) rfl))
  exact (turn.tail (.work (.halt rfl rfl rfl))).tail (.leave (.ofMillis 9) rfl rfl)

/-- The run is cut short with two requests in flight, and its one success does not count as one. -/
theorem cancellation_is_exact_midway :
    Reachable plan ⟨{ expired := true }, .running told⟩ ∧ told.told = some .deadline ∧
      sent.burst.inFlight.length = 2 ∧
      Later plan ⟨{ expired := true }, .running told⟩ ⟨{ expired := true }, .ended report⟩ ∧
      report.success = false ∧ report.completed = 1 ∧
      ∃ t : Supervision Unit, t.burst.inFlight = [] ∧ CutReport .deadline t.burst report := by
  obtain ⟨cut, -⟩ := cancellation_is_exact reachable_told
  obtain ⟨v, t, -, -, flights, sound, broken⟩ := (cut .deadline rfl).report _ _ later_report
  refine ⟨reachable_told, rfl, rfl, later_report, rfl, rfl, t, flights, sound ?_⟩
  cases broke : t.broken with
  | false => rfl
  | true => cases (broken broke).2

end Midway
end Execution

namespace Trial

/-- A plan with a window whose end cannot be represented. -/
def endless : Plan :=
  { endpoint := "/warmup", requests := 1, window := .ofSeconds (Word.size 63), port := 8080
    address := some "10.0.0.12", podName := "web-0", ns := "default" }

theorem due_endless : (endless.offset 0).ceilMillis = 0 := by decide

theorem unplannable_endless : decide (instantLimit ≤ (endless.offset 1).nanos) = true := by decide

theorem run_endless (limits : Limits) (target : Target) (live : limits.overAtStart = none)
    (cut : Timeline.interrupted limits.ending (some 0) = none) :
    (run endless limits target).lasted = 0 ∧
      (run endless limits target).report.error = some (.task overflowDetail) := by
  let c := course endless "10.0.0.12" limits target
  have next : Timeline.nextDue c (Timeline.start 1) = some 0 := congrArg some due_endless
  have breaks : (Timeline.start endless.requests).run c =
      ({ burst := (Burst.start 1).stop }, .overflowed) := by
    refine Timeline.run_of_unplannable rfl ?_ rfl next unplannable_endless
    show Timeline.interrupted limits.ending (Timeline.nextDue c (Timeline.start 1)) = none
    rwa [next]
  have found : endless.address.filter (· ≠ "") = some "10.0.0.12" := rfl
  have eq : run endless limits target = runAt endless "10.0.0.12" limits target := by
    rw [run, found, live]
  rw [eq, runAt, breaks]
  exact ⟨rfl, rfl⟩

/-- A run may be over before its scope and yet not be reported in full. -/
theorem not_always_full :
    ¬ ∀ (p : Plan) (address : String) (limits : Limits) (moment : Nat) (cause : Cause)
        (target : Target), p.address.filter (· ≠ "") = some address →
      limits.ending = some (moment, cause) → (run p limits target).lasted < moment →
      (run p limits target).report.error = none := by
  intro full
  let limits : Limits := { cancelAt := some 10 }
  let target : Target := fun _ => { delay := 4 }
  obtain ⟨lasted, broken⟩ := run_endless limits target rfl rfl
  have soon : (run endless limits target).lasted < 10 := by rw [lasted]; decide
  have error := full endless "10.0.0.12" limits 10 .canceled target rfl rfl soon
  rw [broken] at error
  cases error

end Trial
end WarmupGate.Warmup
