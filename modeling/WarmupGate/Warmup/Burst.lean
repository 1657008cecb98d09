import WarmupGate.Warmup.Tally

/-!
# Bursts of requests

A burst sends a quota of requests and collects their outcomes. Its loop has three branches: it is
told to stop, a request in flight ends, or the next request is due. `Burst.Step` is one turn of the
loop by any of them, in whatever order the world brings them; what is known of a request in flight
may also be revised without a turn. Nothing is said here about time.
-/
namespace WarmupGate.Warmup

/-- The state of the loop; `α` is what is known of a request in flight. -/
structure Burst (α : Type) where
  quota : Nat
  dispatched : Nat := 0
  /-- Requests in flight under their numbers, in order of dispatch. -/
  inFlight : List (Nat × α) := []
  /-- Outcomes under the numbers of their requests, newest first. -/
  recorded : List (Nat × Hit) := []
  /-- The latencies reported to the outside, newest first. -/
  samples : List Span := []
  stopped : Bool := false

namespace Burst

variable {α : Type}

def start (quota : Nat) : Burst α := { quota }

def running (b : Burst α) : Bool :=
  !b.stopped && (decide (b.dispatched < b.quota) || !b.inFlight.isEmpty)

/-- Requests in flight are given up and leave no trace. -/
def stop (b : Burst α) : Burst α := { b with inFlight := [], stopped := true }

def dispatch (b : Burst α) (a : α) : Burst α :=
  { b with dispatched := b.dispatched + 1, inFlight := b.inFlight ++ [(b.dispatched, a)] }

/-- Request k, which stood between others, ends with a hit. -/
def finish (b : Burst α) (before after : List (Nat × α)) (k : Nat) (h : Hit) : Burst α :=
  { b with
    inFlight := before ++ after
    recorded := (k, h) :: b.recorded
    samples := h.latency :: b.samples }

/-- Request k stays in flight, but something about it changes. -/
def revise (b : Burst α) (before after : List (Nat × α)) (k : Nat) (a : α) : Burst α :=
  { b with inFlight := before ++ (k, a) :: after }

inductive Step : Burst α → Burst α → Prop
  | stop {b : Burst α} : b.running = true → Step b b.stop
  | finish {b : Burst α} {before after : List (Nat × α)} {k : Nat} {a : α} (h : Hit) :
      b.running = true → b.inFlight = before ++ (k, a) :: after → Step b (b.finish before after k h)
  | dispatch {b : Burst α} (a : α) :
      b.running = true → b.dispatched < b.quota → Step b (b.dispatch a)
  | revise {b : Burst α} {before after : List (Nat × α)} {k : Nat} {old : α} (new : α) :
      b.running = true → b.inFlight = before ++ (k, old) :: after →
        Step b (b.revise before after k new)

/-- A state that the loop can come to from the start. -/
inductive Reachable (quota : Nat) : Burst α → Prop
  | start : Reachable quota (Burst.start quota)
  | step {b c : Burst α} : Reachable quota b → Step b c → Reachable quota c

/-- The tally of the hits so far, in the order in which they were recorded. -/
def tally (b : Burst α) : Tally := Tally.ofHits (b.recorded.reverse.map Prod.snd)

end Burst
end WarmupGate.Warmup
