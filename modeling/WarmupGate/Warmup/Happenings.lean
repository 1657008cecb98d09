import WarmupGate.Warmup.Scope
import WarmupGate.Warmup.Trial

/-!
# Happenings in any order

The clock of a burst says when things happen, but those of one millisecond may come in any order:
requests in flight whose turn it is, the dispatch that is due, the end of the scope. Here the world
chooses among them, and nothing is passed over. A loop that was told to stop looks for the word when
it begins a turn, so it may take further turns of that millisecond, and may even end by itself. What
a trial may bring is what one of these orders brings.
-/
namespace WarmupGate.Warmup

def Course.until (c : Course) (ending : Option (Nat × Cause)) : Course := { c with ending }

namespace Timeline

/-- Nothing that is still to happen, and no end of the scope, comes before a moment. -/
structure Earliest (c : Course) (t : Timeline) (moment : Nat) : Prop where
  turns : ∀ f ∈ t.burst.inFlight, moment ≤ f.2.turnAt
  due : ∀ due, nextDue c t = some due → moment ≤ due
  ending : ∀ e, c.ending = some e → moment ≤ e.1

inductive Step (c : Course) : Timeline → Timeline → Prop
  | turn {t : Timeline} {before after : List (Nat × Flight)} {k : Nat} {f : Flight} :
      t.burst.running = true → t.burst.inFlight = before ++ (k, f) :: after →
      Earliest c t f.turnAt → Step c t (t.turn c before k f after)
  | dispatch {t : Timeline} {due : Nat} : t.burst.running = true → nextDue c t = some due →
      Earliest c t due → c.unplannable (t.burst.dispatched + 1) = false →
      Step c t (t.dispatch c)

/-- A state that a burst can come to on the clock. -/
inductive Reachable (c : Course) : Timeline → Prop
  | start : Reachable c (.start c.plan.requests)
  | step {t u : Timeline} : Reachable c t → Step c t u → Reachable c u

/-- How a burst may come to its end from a state, and what it leaves. -/
inductive Ends (c : Course) (t : Timeline) : Timeline × Finish → Prop
  | complete : t.burst.running = false → Ends c t (t, .complete)
  | stop {moment : Nat} {cause : Cause} : t.burst.running = true →
      c.ending = some (moment, cause) → Earliest c t moment →
      Ends c t ({ t with now := moment, burst := t.burst.stop }, .stopped cause)
  /-- The word to stop came before the last happening, in the same millisecond. -/
  | told {moment : Nat} {cause : Cause} : t.burst.running = false →
      c.ending = some (moment, cause) → t.now = moment → Ends c t (t, .stopped cause)
  | breakDown {due : Nat} : t.burst.running = true → nextDue c t = some due → Earliest c t due →
      c.unplannable (t.burst.dispatched + 1) = true →
      Ends c t ({ t with now := due, burst := t.burst.stop }, .overflowed)

end Timeline

/-- When and why a run that goes on forever may end. When both causes come in one millisecond, it
may be either. -/
inductive Limits.Allows (l : Limits) : Option (Nat × Cause) → Prop
  | none : l.cancelAt = none → l.deadline = none → Allows l none
  | canceled {moment : Nat} : l.cancelAt = some moment →
      (∀ d, l.deadline = some d → moment ≤ d.ceilMillis) → Allows l (some (moment, .canceled))
  | deadline {d : Span} : l.deadline = some d →
      (∀ moment, l.cancelAt = some moment → d.ceilMillis ≤ moment) →
      Allows l (some (d.ceilMillis, .deadline))

def Forest.remaining (f : Forest) (deadline : Span) : Span := ⟨deadline.nanos - f.now.nanos⟩

/-- The limits of a run that is started now, in a whole millisecond, in a scope. -/
def Forest.limits (f : Forest) (s : Scope) (cancelAt : Option Nat) : Limits :=
  { deadline := s.deadline.map f.remaining
    cancelAt := if f.cancelled s then some 0 else cancelAt }

namespace Trial

/-- What is seen of a run at an address that has come to its end. -/
def ofEnd (p : Plan) (address : String) (e : Timeline × Finish) : Trial :=
  let tally := e.1.burst.tally
  let report := reportOf tally (.ofMillis e.1.now) e.2
  { report
    arrivals := e.1.arrivals.reverse
    samples := e.1.burst.samples.reverse.map (Telemetry.Sample.requestLatency p.ns)
    events := [startingEvent p (p.url address), closingEvent p tally report e.2]
    lasted := e.1.now }

inductive MayBring (p : Plan) (limits : Limits) (target : Target) : Trial → Prop
  | addressMissing : p.address.filter (· ≠ "") = none →
      MayBring p limits target (refused .addressMissing addressMissingMessage)
  | overAtStart {address : String} {cause : Cause} : p.address.filter (· ≠ "") = some address →
      limits.overAtStart = some cause →
      MayBring p limits target (refused (.cancelled cause) cancelledMessage)
  | ran {address : String} {ending : Option (Nat × Cause)} {t : Timeline} {e : Timeline × Finish} :
      p.address.filter (· ≠ "") = some address → limits.overAtStart = none →
      limits.Allows ending →
      Timeline.Reachable ((course p address {} target).until ending) t →
      Timeline.Ends ((course p address {} target).until ending) t e →
      MayBring p limits target (ofEnd p address e)

end Trial
end WarmupGate.Warmup
