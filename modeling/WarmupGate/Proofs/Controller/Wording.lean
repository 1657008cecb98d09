import WarmupGate.Proofs.Cluster.Recorder
import WarmupGate.Proofs.Controller.Counters
import WarmupGate.Proofs.Controller.Revisit
import WarmupGate.Proofs.Text.Cut
import WarmupGate.Proofs.Warmup.Consistency

/-!
# Reason, message and event

The reason of a condition, its message and the event about it are made one by one from the outcome
of a look. They say the same: the reason shows in how the message begins, and the event has the kind
that goes with the reason. Its note is the message, unless the cluster has been told of the same pod
in the same way before; then the event is counted, and keeps the note that it was first sent with.
A controller that does not send requests is not a matter of this module.
-/
namespace WarmupGate.Controller

open Warmup Cluster

/-- The reason of a condition shows in how its message begins. -/
structure Worded (reason : Option String) (message : String) : Prop where
  known : reason = some "WarmupComplete" ∨ reason = some "WarmupFailedOpen"
  failedOpen_iff : reason = some "WarmupFailedOpen" ↔
    (∃ rest, message = "Warmup failed but pod marked ready (fail-open): " ++ rest) ∨
      ∃ rest, message = "warmup config error: " ++ rest
  complete_iff : reason = some "WarmupComplete" ↔ ∃ rest, message = "warmup completed: " ++ rest

theorem failed_ne_completed (s t : String) :
    "Warmup failed but pod marked ready (fail-open): " ++ s ≠ "warmup completed: " ++ t :=
  Text.append_ne_append (i := 0) rfl rfl (by decide) s t

theorem misconfigured_ne_completed (s t : String) :
    "warmup config error: " ++ s ≠ "warmup completed: " ++ t :=
  Text.append_ne_append (i := 9) rfl rfl (by decide) s t

theorem Worded.completed (rest : String) :
    Worded (some Reason.complete.text) ("warmup completed: " ++ rest) where
  known := .inl rfl
  failedOpen_iff := by
    simp only [Reason.text, Option.some.injEq, String.reduceEq, false_iff]
    rintro (⟨other, same⟩ | ⟨other, same⟩)
    · exact failed_ne_completed other rest same.symm
    · exact misconfigured_ne_completed other rest same.symm
  complete_iff := iff_of_true rfl ⟨rest, rfl⟩

theorem Worded.failedOpen {message : String}
    (begins : (∃ rest, message = "Warmup failed but pod marked ready (fail-open): " ++ rest) ∨
      ∃ rest, message = "warmup config error: " ++ rest) :
    Worded (some Reason.failedOpen.text) message where
  known := .inr rfl
  failedOpen_iff := iff_of_true rfl begins
  complete_iff := by
    simp only [Reason.text, Option.some.injEq, String.reduceEq, false_iff]
    rintro ⟨other, rfl⟩
    obtain ⟨rest, same⟩ | ⟨rest, same⟩ := begins
    · exact failed_ne_completed rest other same.symm
    · exact misconfigured_ne_completed rest other same.symm

namespace Outcome

/-- The condition that an outcome is recorded as is worded so. -/
def IsWorded (o : Outcome) : Prop := Worded (some o.reason.text) o.message

theorem isWorded_unplanned (fault : Plan.Fault) : IsWorded (.unplanned fault) :=
  .failedOpen (.inr ⟨fault.message, rfl⟩)

theorem isWorded_executed {plan : Plan} {report : Report} (consistent : report.Consistent plan) :
    IsWorded (.executed report) := by
  cases success : report.success with
  | false =>
    simp only [IsWorded, reason, message, success]
    exact .failedOpen (.inl ⟨report.message, rfl⟩)
  | true =>
    obtain ⟨error, some⟩ := consistent.success_iff.1 success
    have sent : report.total ≠ 0 := by
      rw [Report.total]
      omega
    obtain ⟨rest, summary⟩ := Report.exists_summary error sent
    simp only [Report.opening, success, if_true, String.append_assoc] at summary
    simp only [IsWorded, reason, message, success, if_true, consistent.message_eq error, summary]
    exact .completed _

end Outcome

/-- An event goes with a condition, as the recorder sends it after these notices. -/
structure Announced {σ : Type} (ps : List Publication) (r : Recorder σ) (kept : σ)
    (now : Timestamp) (pod : Pod) (reason : Option String) (message : String) (notice : Notice)
    (sent : EventRecord) : Prop where
  subject : sent.subject = .ofPod pod
  normal_iff : sent.type = "Normal" ∧ sent.notice.reason = "WarmupCompleted" ↔
    reason = some "WarmupComplete"
  warning : reason ≠ some "WarmupComplete" →
    sent.type = "Warning" ∧ sent.notice.reason = "WarmupFailedOpen"
  /-- The first event of a series tells the message. -/
  first : ¬ r.Remembers kept now (.about pod notice) →
    sent.count = none ∧ sent.notice.note = Text.clip noteLimit message
  /-- A later one is counted, and tells what an earlier one told. -/
  again : r.Remembers kept now (.about pod notice) →
    sent.count ≠ none ∧ ∃ p ∈ ps, p.Carries sent

theorem Outcome.announced {σ : Type} {r : Recorder σ} (lawful : r.Lawful) {ps : List Publication}
    {kept : σ} (reached : Recorder.Reachable r ps kept) (now : Timestamp) (pod : Pod)
    (o : Outcome) :
    Announced ps r kept now pod (some o.reason.text) o.message o.notice
      (r.record kept now (.about pod o.notice)).request.body := by
  have series := lawful.series_record kept now (.about pod o.notice)
  obtain ⟨first, again⟩ := reached.note_record lawful now (.about pod o.notice)
  have type : (r.record kept now (.about pod o.notice)).type =
      if o.reason = .failedOpen then "Warning" else "Normal" := by
    rw [Event.type, series.warning]
    simp [Event.about, notice, failedOpen]
  have text : (r.record kept now (.about pod o.notice)).notice.reason = o.reason.noticeText :=
    series.reason
  rw [EventRecord.body_request]
  refine ⟨series.subject, ?_, ?_, first, again⟩
  · rw [type, text]
    cases o.reason <;> decide
  · rw [type, text]
    cases o.reason <;> decide

/-- What reaches the cluster about an outcome: one write, and a notice if it was accepted. -/
structure Brings (c : Circumstances) (pod : Pod) (o : Outcome) (r : Reconciliation) : Prop where
  writes : r.writes = [recorded pod o c.now]
  notices_of_ok : c.answer = .ok () → r.notices = [o.notice]
  notices_of_error : ∀ fault, c.answer = .error fault → r.notices = []

theorem Attempt.Unseen.brings {a : Attempt} (unseen : a.Unseen) {c : Circumstances} {pod : Pod}
    {shuttingDown : Bool} (some : (a.reconciled c pod shuttingDown).writes ≠ []) :
    Brings c pod a.outcome (a.reconciled c pod shuttingDown) := by
  obtain ⟨writes, notices⟩ := writes_reconciled unseen c pod shuttingDown
  have closed : conclude c pod shuttingDown a.outcome = record c pod a.outcome := by
    rw [conclude]
    split
    · rename_i withheld
      rw [writes, (acts_conclude c pod shuttingDown a.outcome).1, if_pos withheld] at some
      exact absurd rfl some
    · rfl
  rw [closed] at writes notices
  refine ⟨writes.trans (acts_record c pod a.outcome).1, fun accepted => ?_, fun fault refused => ?_⟩
  · rw [notices, record_of_ok accepted]
    exact congrArg (List.cons _) (filterMap_of_quiet (quiet_closing pod a.outcome)).2.2
  · rw [notices, notices_record_of_error refused]

/-- An episode of which something is written brings a worded outcome to the cluster. -/
theorem Episode.exists_brings {e : Episode} (sending : e.circumstances.executor = .sending)
    (arises : e.Arises) (some : e.outcome.writes ≠ []) :
    ∃ o : Outcome, o.IsWorded ∧ Brings e.circumstances e.pod o e.outcome := by
  cases runs : e.plan? with
  | some plan =>
    have seen : e.outcome = (Attempt.ofTrial e.pod plan (e.trial plan)).reconciled
        e.circumstances e.pod e.raised := by
      rw [outcome, runs]
    rw [seen] at some ⊢
    exact ⟨_, Outcome.isWorded_executed (arises plan runs).conclusion.consistent,
      (unseen_ofTrial e.pod plan _).brings some⟩
  | none =>
    have seen : e.outcome = reconcile e.circumstances e.pod := by
      rw [outcome, runs]
    rw [seen] at some ⊢
    by_cases ready : e.pod.gateState = .ready
    · rw [reconcile_of_ready ready] at some ⊢
      refine ⟨_, ?_, (unseen_attempt e.circumstances e.pod).brings some⟩
      -- without a run there was no plan, since runs are not skipped
      obtain ready' | ⟨fault, resolves⟩ | skips := Circumstances.plan?_eq_none_iff.1 runs
      · exact absurd ready ready'
      · rw [(attempt_of_error resolves).1]
        exact Outcome.isWorded_unplanned fault
      · rw [sending] at skips
        cases skips
    · exact absurd (filterMap_of_quiet (quiet_reconcile ready)).2.1 some

/-- Whenever a look of a controller that sends requests writes a condition, whatever the pod, the
target, the deadline and the moment of a cancellation: its reason shows in how its message begins,
the event after an accepted write has the kind that goes with the reason, and no event follows a
write that was refused. The note of the event is the message, cut to the limit, unless the recorder
remembers an event of the same kind and reason about the same pod; then the event is counted, and
its note is that of an earlier one. Every look of such a controller is one of these. -/
theorem reason_message_and_event_agree {σ : Type} {r : Recorder σ} (lawful : r.Lawful)
    {e : Episode} {written : List Condition} (sending : e.circumstances.executor = .sending)
    (arises : e.Arises) (writes : written ∈ e.outcome.writes) :
    (∃ (entry : Condition) (message : String),
      Condition.find? Pod.Key.warmupReady written = some entry ∧ entry.message = some message ∧
        Worded entry.reason message ∧
        (∀ fault, e.circumstances.answer = .error fault → e.outcome.notices = []) ∧
        (e.circumstances.answer = .ok () → ∃ notice, e.outcome.notices = [notice] ∧
          ∀ (ps : List Publication) (kept : σ) (now : Timestamp), Recorder.Reachable r ps kept →
            Announced ps r kept now e.pod entry.reason message notice
              (r.record kept now (.about e.pod notice)).request.body)) ∧
      ∀ c pod, c.executor = .sending →
        (Episode.ofLook c pod).Arises ∧ (Episode.ofLook c pod).outcome = reconcile c pod := by
  refine ⟨?_, fun c pod sending =>
    ⟨Episode.arises_ofLook sending pod, Episode.outcome_ofLook c pod⟩⟩
  obtain ⟨o, worded, brings⟩ := Episode.exists_brings sending arises (List.ne_nil_of_mem writes)
  obtain rfl : written = recorded e.pod o e.circumstances.now := by
    rw [brings.writes] at writes
    exact List.mem_singleton.1 writes
  obtain ⟨entry, found, -, reason, message, -⟩ :=
    Condition.exists_find?_upsert e.pod.status.conditions (o.condition e.circumstances.now)
  refine ⟨entry, o.message, found, message, reason ▸ worded, brings.notices_of_error, ?_⟩
  intro accepted
  refine ⟨o.notice, brings.notices_of_ok accepted, fun ps kept now reached => ?_⟩
  rw [reason]
  exact o.announced lawful reached now e.pod

namespace Waiting

def visited : List Condition :=
  recorded pod (.executed (visiting.trial plan).report) visiting.circumstances.now

def recorder : Recorder Journal := Journal.recorder none

/-- The warmup succeeds, the condition is worded so, and the event is a normal one that tells the
message. -/
theorem agree_when_visiting : visiting.outcome.writes = [visited] ∧
    ∃ entry message notice, Condition.find? Pod.Key.warmupReady visited = some entry ∧
      entry.reason = some "WarmupComplete" ∧ entry.message = some message ∧
      (∃ rest, message = "warmup completed: " ++ rest) ∧ visiting.outcome.notices = [notice] ∧
      (recorder.record [] ⟨"1"⟩ (.about pod notice)).request.body.type = "Normal" ∧
      (recorder.record [] ⟨"1"⟩ (.about pod notice)).request.body.notice.note =
        Text.clip noteLimit message := by
  have writes : visiting.outcome.writes = [visited] := rfl
  have member : visited ∈ visiting.outcome.writes := writes ▸ List.mem_singleton_self visited
  obtain ⟨⟨entry, message, found, told, worded, -, published⟩, -⟩ :=
    reason_message_and_event_agree (Journal.lawful_recorder none) rfl arises_visiting member
  have reason : entry.reason = some "WarmupComplete" := by
    have given : (Condition.find? Pod.Key.warmupReady visited).bind Condition.reason =
        some "WarmupComplete" := rfl
    rwa [found] at given
  obtain ⟨notice, notices, announced⟩ := published rfl
  have sent := announced [] [] ⟨"1"⟩ .start
  have unknown : ¬ recorder.Remembers [] ⟨"1"⟩ (.about pod notice) := fun known => known rfl
  exact ⟨writes, entry, message, notice, found, reason, told, worded.complete_iff.1 reason, notices,
    (sent.normal_iff.2 reason).1, (sent.first unknown).2⟩

end Waiting

namespace Mistyped

/-- A pod at the gate with a port that cannot be. -/
def pod (port : String) : Pod :=
  { Waiting.pod with
    metadata := { Waiting.pod.metadata with annotations := [(Pod.Key.port, port)] } }

def circumstances : Circumstances := Waiting.visiting.circumstances

def notice (port : Int) : Notice := (Outcome.unplanned (.portOutOfRange port)).notice

/-- What the first look tells, and that the cluster has accepted it. -/
def first : Publication where
  pod := pod "0"
  notice := notice 0
  stamp := ⟨"1"⟩
  answer := .bare 200 ""

/-- What the recorder keeps after the first look. -/
def kept : Journal :=
  Waiting.recorder.settle [] (Waiting.recorder.record [] first.stamp first.event) first.answer

def second : EventRecord :=
  Waiting.recorder.record kept ⟨"2"⟩ (.about (pod "70000") (notice 70000))

/-- The port of the pod is replaced by another one that cannot be. The second condition tells of
that one, but the event is sent again with the note about the first. -/
theorem second_event_keeps_first_note :
    circumstances.executor = .sending ∧ circumstances.answer = .ok () ∧
      (reconcile circumstances (pod "0")).notices = [first.notice] ∧
      Recorder.Reachable Waiting.recorder [first] kept ∧
      (∃ written entry, (reconcile circumstances (pod "70000")).writes = [written] ∧
        Condition.find? Pod.Key.warmupReady written = some entry ∧
        entry.message = some (notice 70000).note) ∧
      (reconcile circumstances (pod "70000")).notices = [notice 70000] ∧
      second.request.body.notice.note ≠ Text.clip noteLimit (notice 70000).note := by
  refine ⟨rfl, rfl, rfl, .publish first .start, ⟨_, _, rfl, rfl, rfl⟩, rfl, ?_⟩
  decide

end Mistyped
end WarmupGate.Controller
