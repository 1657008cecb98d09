import WarmupGate.Warmup.Burst
import WarmupGate.Warmup.Plan
import WarmupGate.Warmup.Report
import WarmupGate.Warmup.Target

/-!
# Bursts in virtual time

A burst against a target, on a clock of whole milliseconds that moves from one happening to the
next; the program itself takes no time. A timer fires at the first millisecond that is not before
it. When several things fall on one millisecond, the end of the scope comes first, then requests in
flight in the order of their dispatch, then the next dispatch. A request has its own timer, over all
addresses that it is led to.
-/
namespace WarmupGate.Warmup

/-- A request in flight: when it was sent, when its time is up, and what happens to it next. -/
structure Flight where
  sentAt : Nat
  expiresAt : Nat
  url : Net.Url
  /-- How many times it was led to another address. -/
  followed : Nat := 0
  /-- When the next turn takes place. -/
  turnAt : Nat
  turn : Turn

/-- A request as the target sees it. -/
structure Arrival where
  millis : Nat
  method : String
  url : Net.Url
  userAgent : String
  marker : String
  deriving DecidableEq, Repr

/-- How many times one request is led to another address before it is given up. -/
def maxRedirects : Nat := 10

/-- The name that the client gives itself. -/
def userAgent : String := "kube-booster/1.0"

/-- The header that marks a request as warmup, and its value. -/
def markerHeader : String := "X-Warmup-Request"
def markerValue : String := "true"

structure Course where
  plan : Plan
  /-- The endpoint, if its address can be read. -/
  endpoint : Option Net.Url
  target : Target
  /-- When and why the scope ends. -/
  ending : Option (Nat × Cause) := none

structure Timeline where
  now : Nat := 0
  burst : Burst Flight
  /-- When requests were dispatched, newest first. -/
  sentAt : List Nat := []
  /-- What the target has seen, newest first. -/
  arrivals : List Arrival := []

/-- How a burst came to its end. -/
inductive Finish where
  | complete
  | stopped (cause : Cause)
  /-- The next instant is too far away to be represented. -/
  | overflowed
  deriving DecidableEq, Repr

/-- The first instant, in nanoseconds, that cannot be represented. -/
def instantLimit : Nat := Word.size 63 * 1000000000

namespace Course

/-- The millisecond at which request k is due. -/
def due (c : Course) (k : Nat) : Nat := (c.plan.offset k).ceilMillis

/-- The dispatch after request k cannot be planned. -/
def unplannable (c : Course) (k : Nat) : Bool := decide (instantLimit ≤ (c.plan.offset k).nanos)

/-- A request reaches an address at a time: what happens to it next, unless its time is up before.
-/
def arrive (c : Course) (arrivals : List Arrival) (now sentAt expiresAt followed : Nat)
    (url : Net.Url) : Flight × List Arrival :=
  let asked := c.endpoint.getD url
  match unreachable? asked url with
  | some error =>
    ({ sentAt, expiresAt, url, followed, turnAt := now, turn := .ends none (some error) }, arrivals)
  | none =>
    let seen : Arrival :=
      { millis := now, method := "GET", url, userAgent, marker := markerValue }
    let answer := c.target arrivals.length
    let expired : Flight :=
      { sentAt, expiresAt, url, followed, turnAt := expiresAt
        turn := answer.expiry asked (expiresAt - now) }
    let flight :=
      match answer.turn asked url with
      | some (wait, turn) =>
        if now + wait < expiresAt then
          { sentAt, expiresAt, url, followed, turnAt := now + wait, turn }
        else expired
      | none => expired
    (flight, seen :: arrivals)

def send (c : Course) (arrivals : List Arrival) (now : Nat) : Flight × List Arrival :=
  let expiresAt := now + c.plan.requestTimeout.ceilMillis
  match c.endpoint with
  | some url => c.arrive arrivals now now expiresAt 0 url
  | none =>
    ({ sentAt := now, expiresAt, url := { authority := { host := [] }, path := [] }, turnAt := now
       turn := .ends none (some addressError) }, arrivals)

end Course

namespace Flight

/-- How many more turns the request can take. -/
def weight (f : Flight) : Nat := maxRedirects + 1 - f.followed

/-- How many more turns several requests can take. -/
def weights : List (Nat × Flight) → Nat
  | [] => 0
  | f :: rest => f.2.weight + weights rest

@[simp] theorem weights_append (fs gs : List (Nat × Flight)) :
    weights (fs ++ gs) = weights fs + weights gs := by
  induction fs with
  | nil => simp [weights]
  | cons f rest ih => simp [weights, ih, Nat.add_assoc]

def hit (f : Flight) (status : Option Nat) (error : Option String) : Hit :=
  { latency := .ofMillis (f.turnAt - f.sentAt), status, error }

end Flight

/-- The flight whose turn comes first, between those before and those behind it. -/
def splitEarliest : List (Nat × Flight) →
    Option (List (Nat × Flight) × (Nat × Flight) × List (Nat × Flight))
  | [] => none
  | f :: rest =>
    match splitEarliest rest with
    | none => some ([], f, rest)
    | some (before, g, after) =>
      if g.2.turnAt < f.2.turnAt then some (f :: before, g, after) else some ([], f, rest)

theorem eq_of_splitEarliest {fs before after : List (Nat × Flight)} {f : Nat × Flight}
    (h : splitEarliest fs = some (before, f, after)) : fs = before ++ f :: after := by
  induction fs generalizing before f after with
  | nil => cases h
  | cons g rest ih =>
    unfold splitEarliest at h
    split at h
    · cases h
      rfl
    · rename_i before' g' after' heq
      split at h <;> cases h
      · rw [ih heq, List.cons_append]
      · rfl

namespace Timeline

def start (quota : Nat) : Timeline := { burst := Burst.start quota }

/-- How much can still happen before the burst has to be over. -/
def weight (t : Timeline) : Nat :=
  (maxRedirects + 2) * (t.burst.quota - t.burst.dispatched) +
    Flight.weights t.burst.inFlight

/-- The end of the scope, unless something of the burst comes before it. -/
def interrupted (ending : Option (Nat × Cause)) (next : Option Nat) : Option (Nat × Cause) :=
  match ending, next with
  | some (moment, cause), some n => if moment ≤ n then some (moment, cause) else none
  | some e, none => some e
  | none, _ => none

/-- The request that is due next, if there is one left. -/
def nextDue (c : Course) (t : Timeline) : Option Nat :=
  if t.burst.dispatched < t.burst.quota then some (c.due t.burst.dispatched) else none

/-- The flight that is next, if its turn is not after the next dispatch. -/
def nextFlight (c : Course) (t : Timeline) :
    Option (List (Nat × Flight) × (Nat × Flight) × List (Nat × Flight)) :=
  match splitEarliest t.burst.inFlight with
  | none => none
  | some split =>
    if (nextDue c t).all (fun due => decide (split.2.1.2.turnAt ≤ due)) then some split else none

/-- The millisecond of the next happening of the burst itself. -/
def nextAt (c : Course) (t : Timeline) : Option Nat :=
  match nextFlight c t with
  | some split => some split.2.1.2.turnAt
  | none => nextDue c t

def turn (c : Course) (t : Timeline) (before : List (Nat × Flight)) (k : Nat) (f : Flight)
    (after : List (Nat × Flight)) : Timeline :=
  match f.turn with
  | .ends status error =>
    { t with now := f.turnAt, burst := t.burst.finish before after k (f.hit status error) }
  | .follows lead =>
    if f.followed < maxRedirects then
      match lead with
      | .web url =>
        let next := c.arrive t.arrivals f.turnAt f.sentAt f.expiresAt (f.followed + 1) url
        { t with
          now := f.turnAt
          burst := t.burst.revise before after k next.1
          arrivals := next.2 }
      | .foreign address =>
        let error := unusableError (String.ofList address)
        { t with now := f.turnAt, burst := t.burst.finish before after k (f.hit none (some error)) }
    else
      { t with
        now := f.turnAt
        burst := t.burst.finish before after k (f.hit none (some (redirectError f.url))) }

def dispatch (c : Course) (t : Timeline) : Timeline :=
  let now := c.due t.burst.dispatched
  let sent := c.send t.arrivals now
  { now, burst := t.burst.dispatch sent.1, sentAt := now :: t.sentAt, arrivals := sent.2 }

theorem followed_arrive (c : Course) (arrivals : List Arrival) (now sentAt expiresAt followed : Nat)
    (url : Net.Url) :
    (c.arrive arrivals now sentAt expiresAt followed url).1.followed = followed := by
  unfold Course.arrive
  dsimp only
  split
  · rfl
  · split
    · split <;> rfl
    · rfl

theorem followed_send (c : Course) (arrivals : List Arrival) (now : Nat) :
    (c.send arrivals now).1.followed = 0 := by
  unfold Course.send
  split
  · exact followed_arrive ..
  · rfl

theorem nextFlight_eq {c : Course} {t : Timeline} {before after : List (Nat × Flight)}
    {f : Nat × Flight} (h : nextFlight c t = some (before, f, after)) :
    t.burst.inFlight = before ++ f :: after := by
  unfold nextFlight at h
  split at h
  · cases h
  · split at h
    · cases h
      exact eq_of_splitEarliest ‹_›
    · cases h

/-- A finished or a led-on request leaves less to happen. -/
theorem weight_turn {c : Course} {t : Timeline} {before after : List (Nat × Flight)} {k : Nat}
    {f : Flight} (hs : t.burst.inFlight = before ++ (k, f) :: after)
    (hf : f.followed ≤ maxRedirects) :
    (turn c t before k f after).weight < t.weight := by
  unfold turn
  split
  · simp only [weight, Burst.finish, hs, Flight.weights_append, Flight.weights, Flight.weight]
    omega
  · split
    · split
      · simp only [weight, Burst.revise, hs, Flight.weights_append, Flight.weights, Flight.weight,
          followed_arrive]
        omega
      · simp only [weight, Burst.finish, hs, Flight.weights_append, Flight.weights, Flight.weight]
        omega
    · simp only [weight, Burst.finish, hs, Flight.weights_append, Flight.weights, Flight.weight]
      omega

/-- A dispatched request leaves less to happen. -/
theorem weight_dispatch {c : Course} {t : Timeline} (h : t.burst.dispatched < t.burst.quota) :
    (dispatch c t).weight < t.weight := by
  simp only [weight, dispatch, Burst.dispatch, Flight.weights_append, Flight.weights,
    Flight.weight, followed_send, maxRedirects]
  omega

theorem dispatched_lt_of_nextDue {c : Course} {t : Timeline} {n : Nat}
    (h : nextDue c t = some n) : t.burst.dispatched < t.burst.quota := by
  unfold nextDue at h
  split at h
  · assumption
  · cases h

def run (c : Course) (t : Timeline) : Timeline × Finish :=
  if t.burst.running then
    match interrupted c.ending (nextAt c t) with
    | some (moment, cause) => ({ t with now := moment, burst := t.burst.stop }, .stopped cause)
    | none =>
      match _h : nextFlight c t with
      | some (before, (k, f), after) =>
        if f.followed ≤ maxRedirects then run c (turn c t before k f after) else (t, .overflowed)
      | none =>
        match _d : nextDue c t with
        | some due =>
          if c.unplannable (t.burst.dispatched + 1) then
            ({ t with now := due, burst := t.burst.stop }, .overflowed)
          else run c (dispatch c t)
        | none => (t, .complete)
  else (t, .complete)
termination_by t.weight
decreasing_by
  · exact weight_turn (nextFlight_eq _h) ‹_›
  · exact weight_dispatch (dispatched_lt_of_nextDue _d)

end Timeline
end WarmupGate.Warmup
