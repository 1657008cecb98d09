import WarmupGate.Warmup.Burst
import WarmupGate.Warmup.Plan

/-!
# The pace of a burst

The loop of a burst on a clock of nanoseconds, which starts with the loop. On every turn the timer
is set anew for the request that is next, and it fires at that instant or later, never before. The
loop may be held up for any time and between any two turns. How long a turn takes, or when a request
in flight ends, is left to the world.

A prompt loop has a clock of whole milliseconds and goes on only when no request is left waiting: as
soon as the timer of the next request has fired, the clock stands still until it has left. Requests
in flight may end at any time and in any order, as many in one millisecond as the world wants,
before a dispatch and after it.
-/
namespace WarmupGate.Warmup

structure Departure where
  number : Nat
  instant : Span
  deriving DecidableEq, Repr

structure Paced (α : Type) where
  now : Span := .zero
  burst : Burst α
  /-- The requests that have left, newest first. -/
  departures : List Departure := []

namespace Paced

variable {α : Type}

def start (quota : Nat) : Paced α := { burst := Burst.start quota }

/-- Time passes. -/
def wait (l : Paced α) (d : Span) : Paced α := { l with now := ⟨l.now.nanos + d.nanos⟩ }

def dispatch (l : Paced α) (a : α) : Paced α :=
  { l with
    burst := l.burst.dispatch a
    departures := ⟨l.burst.dispatched, l.now⟩ :: l.departures }

inductive Step (p : Plan) : Paced α → Paced α → Prop
  | wait {l : Paced α} (d : Span) : Step p l (l.wait d)
  /-- A turn in which no request leaves. -/
  | turn {l : Paced α} {b : Burst α} : Burst.Step l.burst b →
      b.dispatched = l.burst.dispatched → Step p l { l with burst := b }
  /-- The timer for the next request has fired. -/
  | dispatch {l : Paced α} (a : α) : l.burst.running = true → l.burst.dispatched < l.burst.quota →
      p.offset l.burst.dispatched ≤ l.now → Step p l (l.dispatch a)

/-- A state that the loop of a plan can come to. -/
inductive Reachable (p : Plan) : Paced α → Prop
  | start : Reachable p (.start p.requests)
  | step {l k : Paced α} : Reachable p l → Step p l k → Reachable p k

/-- The timer for the next request has fired, and the request has not left yet. -/
structure Fired (p : Plan) (l : Paced α) : Prop where
  running : l.burst.running = true
  room : l.burst.dispatched < l.burst.quota
  due : p.offset l.burst.dispatched ≤ l.now

namespace Prompt

/-- One step of a loop that lets no request wait. -/
inductive Step (p : Plan) : Paced α → Paced α → Prop
  | tick {l : Paced α} : ¬ l.Fired p → Step p l (l.wait (.ofMillis 1))
  /-- A turn in which no request leaves. -/
  | turn {l : Paced α} {b : Burst α} : Burst.Step l.burst b →
      b.dispatched = l.burst.dispatched → Step p l { l with burst := b }
  | dispatch {l : Paced α} (a : α) : l.Fired p → Step p l (l.dispatch a)

/-- A state that a prompt loop can come to. -/
inductive Reachable (p : Plan) : Paced α → Prop
  | start : Reachable p (.start p.requests)
  | step {l m : Paced α} : Reachable p l → Step p l m → Reachable p m

end Prompt
end Paced
end WarmupGate.Warmup
