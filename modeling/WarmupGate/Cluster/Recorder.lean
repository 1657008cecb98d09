import WarmupGate.Cluster.Exchange
import WarmupGate.Controller.Outcome
import WarmupGate.Log.Event
import WarmupGate.Text.Clip

/-!
# Publishing notices

A notice about a pod becomes an event object of the cluster. A recorder of the client library sends
it. What the library says of its recorders is put down as laws: events that agree in everything but
the note form a series; the first one makes an object, and each later one raises its count and keeps
the first note, for as long as the recorder remembers. One recorder that obeys the laws is the
journal, which never forgets.
-/
namespace WarmupGate.Cluster

/-- The name that the controller reports under. -/
def controllerName : String := "kube-booster-controller"

/-- Notes are cut to this many bytes. -/
def noteLimit : Nat := 1024

/-- The object that an event is about; it is always a pod. -/
structure Subject where
  name : Option String
  ns : Option String
  uid : Option String
  deriving DecidableEq, Repr

def Subject.ofPod (pod : Pod) : Subject := ⟨pod.metadata.name, pod.metadata.ns, pod.metadata.uid⟩

structure Event where
  notice : Controller.Notice
  subject : Subject
  deriving DecidableEq, Repr

namespace Event

/-- A notice about a pod, with its note cut to the limit. -/
def about (pod : Pod) (notice : Controller.Notice) : Event where
  notice := { notice with note := Text.clip noteLimit notice.note }
  subject := .ofPod pod

def action : String := "Warmup"

def type (e : Event) : String := if e.notice.warning then "Warning" else "Normal"

/-- Two events belong to one series: they are of one type, have one reason and are about one
object. -/
structure SameSeries (a b : Event) : Prop where
  warning : a.notice.warning = b.notice.warning
  reason : a.notice.reason = b.notice.reason
  subject : a.subject = b.subject

theorem sameSeries_iff {a b : Event} : a.SameSeries b ↔ a.notice.warning = b.notice.warning ∧
    a.notice.reason = b.notice.reason ∧ a.subject = b.subject :=
  ⟨fun same => ⟨same.warning, same.reason, same.subject⟩,
    fun ⟨warning, reason, subject⟩ => ⟨warning, reason, subject⟩⟩

instance (a b : Event) : Decidable (a.SameSeries b) := decidable_of_iff' _ sameSeries_iff

end Event

structure EventRecord extends Event where
  /-- The process that reports it. -/
  instanceName : String
  /-- The object's own name. -/
  name : String
  /-- How many events the series has; none for a single one. -/
  count : Option Nat := none
  deriving DecidableEq, Repr

namespace EventRecord

def next (e : EventRecord) : EventRecord := { e with count := some (e.count.getD 1 + 1) }

def path (e : EventRecord) : String :=
  "/apis/events.k8s.io/v1/namespaces/" ++ e.subject.ns.getD "default" ++ "/events"

/-- A series is patched, everything else is made. -/
def request (e : EventRecord) : Request EventRecord :=
  match e.count with
  | none => { path := e.path, content := .whole e }
  | some _ => { path := e.path ++ "/" ++ e.name, content := .change e }

end EventRecord

/-- A recorder of the client library, by what it keeps from one event to the next. -/
structure Recorder (σ : Type) where
  /-- Before anything was published. -/
  start : σ
  /-- The record of an event's series that is remembered at a time. -/
  last? : σ → Timestamp → Event → Option EventRecord
  /-- What an event is sent as. -/
  record : σ → Timestamp → Event → EventRecord
  /-- What is kept once the cluster has answered. -/
  settle : σ → EventRecord → Response → σ

namespace Recorder

variable {σ : Type}

/-- What the library says of its recorders. How long anything is remembered is left open. -/
structure Lawful (r : Recorder σ) : Prop where
  /-- An event whose series is not remembered is sent as it is. -/
  first : ∀ {kept now event}, r.last? kept now event = none →
    (r.record kept now event).toEvent = event ∧ (r.record kept now event).count = none
  /-- One more event of a series is sent as what is remembered, and counted. -/
  again : ∀ {kept now event old}, r.last? kept now event = some old →
    r.record kept now event = old.next
  /-- What is remembered belongs to the series that was asked for. -/
  series : ∀ {kept now event old}, r.last? kept now event = some old → old.SameSeries event
  /-- Nothing is remembered to begin with. -/
  fresh : ∀ now event, r.last? r.start now event = none
  /-- Nothing comes to be remembered but records that the cluster has accepted. -/
  last_settle : ∀ {kept sent answer now event old},
    r.last? (r.settle kept sent answer) now event = some old →
      r.last? kept now event = some old ∨ answer.refusal? = none ∧ old = sent

/-- What is said when the cluster refuses a notice. -/
def refusedEvent (pod : Pod) (refusal : Refusal) : Log.Event :=
  { level := .warn
    target := Log.Event.podApiTarget
    message := "failed to publish warmup event"
    fields :=
      [("pod", .shown pod.name), ("namespace", .shown pod.ns), ("error", .shown refusal.text)] }

/-- A refused notice is only logged. -/
def eventsOf (pod : Pod) (answer : Response) : List Log.Event :=
  (answer.refusal?.map (refusedEvent pod)).toList

end Recorder

/-- The last accepted record of every series. -/
abbrev Journal := List EventRecord

namespace Journal

def last? (published : Journal) (event : Event) : Option EventRecord :=
  published.find? fun old => decide (old.SameSeries event)

/-- A first record; the time tells the objects of one pod apart. -/
def firstRecord (instanceName : Option String) (now : Timestamp) (event : Event) : EventRecord :=
  { toEvent := event
    instanceName := instanceName.getD controllerName
    name := event.subject.name.getD controllerName ++ "." ++ now.text }

/-- A record takes the place of the ones of its series. -/
def accept (published : Journal) (e : EventRecord) : Journal :=
  e :: published.filter fun old => !decide (old.SameSeries e.toEvent)

/-- The recorder of a process, which may have a name of its own. -/
def recorder (instanceName : Option String) : Recorder Journal where
  start := []
  last? published _ event := published.last? event
  record published now event :=
    match published.last? event with
    | some old => old.next
    | none => firstRecord instanceName now event
  settle published sent answer :=
    if answer.refusal?.isNone then published.accept sent else published

end Journal
end WarmupGate.Cluster
