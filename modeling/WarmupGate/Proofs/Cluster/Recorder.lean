import WarmupGate.Cluster.Recorder

/-!
# What a notice is sent as

A notice is sent with its own kind, reason and pod, whatever was sent before. Its note is another
matter: while the recorder remembers a series, every later notice of the series is sent with the
note that the series began with. All of it follows from the laws of the recorder, whatever the
cluster accepts or refuses, and however soon anything is forgotten.
-/
namespace WarmupGate.Cluster

/-- A notice about a pod that a recorder was handed, and the answer to what was sent. -/
structure Publication where
  pod : Pod
  notice : Controller.Notice
  stamp : Timestamp
  answer : Response

def Publication.event (p : Publication) : Event := .about p.pod p.notice

/-- The record is about an accepted notice, and has its note. -/
structure Publication.Carries (p : Publication) (e : EventRecord) : Prop where
  accepted : p.answer.refusal? = none
  series : e.SameSeries p.event
  note : e.notice.note = Text.clip noteLimit p.notice.note

theorem Publication.Carries.next {p : Publication} {e : EventRecord} (h : p.Carries e) :
    p.Carries e.next :=
  ⟨h.accepted, ⟨h.series.warning, h.series.reason, h.series.subject⟩, h.note⟩

theorem EventRecord.body_request (e : EventRecord) : e.request.body = e := by
  unfold request
  split <;> rfl

theorem Event.SameSeries.refl (e : Event) : e.SameSeries e := ⟨rfl, rfl, rfl⟩

namespace Recorder

variable {σ : Type} {r : Recorder σ} {kept : σ} {event : Event} {now : Timestamp}
  {ps : List Publication}

/-- The recorder remembers the series of an event. -/
def Remembers (r : Recorder σ) (kept : σ) (now : Timestamp) (event : Event) : Prop :=
  r.last? kept now event ≠ none

/-- What a recorder keeps that was handed these notices, the last one first. -/
inductive Reachable (r : Recorder σ) : List Publication → σ → Prop
  | start : Reachable r [] r.start
  | publish {ps : List Publication} {kept : σ} (p : Publication) : Reachable r ps kept →
      Reachable r (p :: ps) (r.settle kept (r.record kept p.stamp p.event) p.answer)

theorem Lawful.record_cases (lawful : r.Lawful) (kept : σ) (now : Timestamp) (event : Event) :
    (¬ r.Remembers kept now event ∧ (r.record kept now event).toEvent = event ∧
        (r.record kept now event).count = none) ∨
      ∃ old, r.last? kept now event = some old ∧ r.record kept now event = old.next := by
  cases found : r.last? kept now event with
  | none =>
    obtain ⟨same, single⟩ := lawful.first found
    exact .inl ⟨fun known => known found, same, single⟩
  | some old => exact .inr ⟨old, rfl, lawful.again found⟩

/-- What is sent is of the type of the event, for the reason and about the object. -/
theorem Lawful.series_record (lawful : r.Lawful) (kept : σ) (now : Timestamp) (event : Event) :
    (r.record kept now event).SameSeries event := by
  obtain ⟨-, same, -⟩ | ⟨old, found, next⟩ := lawful.record_cases kept now event
  · rw [same]
    exact .refl event
  · obtain ⟨warning, reason, subject⟩ := lawful.series found
    rw [next]
    exact ⟨warning, reason, subject⟩

/-- Every record that is remembered has the note of an accepted notice of its series. -/
theorem Reachable.carried (lawful : r.Lawful) (h : Reachable r ps kept) :
    ∀ now event old, r.last? kept now event = some old → ∃ p ∈ ps, p.Carries old := by
  induction h with
  | start =>
    intro now event old found
    rw [lawful.fresh] at found
    cases found
  | @publish ps kept p reached ih =>
    have older {now : Timestamp} {event : Event} {old : EventRecord}
        (found : r.last? kept now event = some old) : ∃ q ∈ p :: ps, q.Carries old := by
      obtain ⟨q, member, carries⟩ := ih now event old found
      exact ⟨q, List.mem_cons_of_mem p member, carries⟩
    intro now event old found
    obtain before | ⟨accepted, rfl⟩ := lawful.last_settle found
    · exact older before
    · obtain ⟨-, same, -⟩ | ⟨first, found, next⟩ := lawful.record_cases kept p.stamp p.event
      · refine ⟨p, List.mem_cons_self, accepted, ?_, ?_⟩
        · rw [same]
          exact .refl p.event
        · rw [same]
          rfl
      · obtain ⟨q, member, carries⟩ := older found
        exact ⟨q, member, next ▸ carries.next⟩

/-- The note that an event is sent with: its own one, or that of an earlier notice while a record of
the series is remembered. -/
theorem Reachable.note_record (lawful : r.Lawful) (h : Reachable r ps kept) (now : Timestamp)
    (event : Event) :
    (¬ r.Remembers kept now event → (r.record kept now event).count = none ∧
        (r.record kept now event).notice.note = event.notice.note) ∧
      (r.Remembers kept now event → (r.record kept now event).count ≠ none ∧
        ∃ p ∈ ps, p.Carries (r.record kept now event)) := by
  obtain ⟨unknown, same, single⟩ | ⟨old, found, next⟩ := lawful.record_cases kept now event
  · exact ⟨fun _ => ⟨single, by rw [same]⟩, fun known => absurd known unknown⟩
  · have known : r.Remembers kept now event := by simp [Remembers, found]
    obtain ⟨p, member, carries⟩ := h.carried lawful now event old found
    refine ⟨fun unknown => absurd known unknown, fun _ => ⟨?_, p, member, next ▸ carries.next⟩⟩
    simp [next, EventRecord.next]

end Recorder

namespace Journal

variable {published : Journal} {event : Event} {e old : EventRecord}

theorem last_accept (found : (published.accept e).last? event = some old) :
    published.last? event = some old ∨ old = e := by
  by_cases same : e.SameSeries event
  · rw [last?, accept, List.find?_cons_of_pos (by simpa using same)] at found
    exact .inr (Option.some.inj found).symm
  · rw [last?, accept, List.find?_cons_of_neg (by simpa using same), List.find?_filter] at found
    left
    rw [← found, last?]
    congr 1
    funext other
    by_cases hit : other.SameSeries event
    · have apart : ¬ other.SameSeries e.toEvent := fun near => same
        ⟨near.warning.symm.trans hit.warning, near.reason.symm.trans hit.reason,
          near.subject.symm.trans hit.subject⟩
      simp [hit, apart]
    · simp [hit]

theorem lawful_recorder (instanceName : Option String) : (recorder instanceName).Lawful where
  first {kept now event} unknown := by
    change last? kept event = none at unknown
    simp [recorder, unknown, firstRecord]
  again {kept now event old} found := by
    change last? kept event = some old at found
    simp [recorder, found]
  series found := by simpa using List.find?_some found
  fresh _ _ := rfl
  last_settle {kept sent answer now event old} found := by
    change last? (if answer.refusal?.isNone then kept.accept sent else kept) event = some old
      at found
    split at found
    · rename_i accepted
      exact (last_accept found).imp_right fun same => ⟨by simpa using accepted, same⟩
    · exact .inl found

end Journal
end WarmupGate.Cluster
