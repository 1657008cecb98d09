import WarmupGate.Warmup.Report

/-!
# Scopes

A scope bounds a piece of work: it can be cancelled through the handle that its root was made with,
and it can have a deadline. A child has the earlier of its own and its parent's deadline and shares
the root's handle. The forest holds all scopes that were made, a clock that stands still unless it
is moved, and which roots are cancelled. A look at the clock compares nanoseconds; a timer wakes in
whole milliseconds, so who waits for a deadline may hear of it later than a look shows it.
-/
namespace WarmupGate.Warmup

structure Scope where
  /-- The number of the root that this scope descends from. -/
  root : Nat
  /-- The deadline since the start of the clock. -/
  deadline : Option Span := none
  deriving DecidableEq, Repr

/-- A cancellation signal: whether its handle is still held, and whether it has been used. -/
structure Signal where
  held : Bool
  cancelled : Bool := false
  deriving DecidableEq, Repr

structure Forest where
  /-- Nanoseconds since the start. -/
  clock : Nat := 0
  signals : List Signal := []
  scopes : List Scope := []
  deriving DecidableEq, Repr

namespace Forest

def now (f : Forest) : Span := ⟨f.clock⟩

def cancelled (f : Forest) (s : Scope) : Bool := (f.signals[s.root]?).any Signal.cancelled

def expired (f : Forest) (s : Scope) : Bool := s.deadline.any (fun d => decide (d ≤ f.now))

/-- The timer of a scope's deadline has fired. -/
def fired (f : Forest) (s : Scope) : Bool :=
  s.deadline.any (fun d => decide (Span.ofMillis d.ceilMillis ≤ f.now))

/-- Why a scope is over. Cancellation counts before the deadline. -/
def err (f : Forest) (s : Scope) : Option Cause :=
  if f.cancelled s then some .canceled else if f.expired s then some .deadline else none

/-- What is heard of the end of a scope by now. -/
inductive Ending where
  | pending
  | heard (cause : Cause)
  /-- Both causes can be heard; either may be first. -/
  | either
  deriving DecidableEq, Repr

def ending (f : Forest) (s : Scope) : Ending :=
  match f.cancelled s, f.fired s with
  | true, true => .either
  | true, false => .heard .canceled
  | false, true => .heard .deadline
  | false, false => .pending

def background (f : Forest) : Forest :=
  { f with
    signals := f.signals ++ [⟨false, false⟩]
    scopes := f.scopes ++ [⟨f.signals.length, none⟩] }

def withCancel (f : Forest) : Forest :=
  { f with
    signals := f.signals ++ [⟨true, false⟩]
    scopes := f.scopes ++ [⟨f.signals.length, none⟩] }

def earlier : Option Span → Span → Span
  | some a, b => if a < b then a else b
  | none, b => b

/-- A child that ends at the latest after a time. -/
def withTimeout (f : Forest) (parent : Nat) (timeout : Span) : Forest :=
  match f.scopes[parent]? with
  | none => f
  | some s =>
    let own : Span := ⟨f.now.nanos + timeout.nanos⟩
    { f with scopes := f.scopes ++ [⟨s.root, some (earlier s.deadline own)⟩] }

/-- A second scope that is no different from the first. -/
def clone (f : Forest) (scope : Nat) : Forest :=
  match f.scopes[scope]? with
  | none => f
  | some s => { f with scopes := f.scopes ++ [s] }

def modifySignal (f : Forest) (scope : Nat) (change : Signal → Signal) : Forest :=
  match f.scopes[scope]? with
  | none => f
  | some s => { f with signals := f.signals.modify s.root change }

/-- Cancels the root that a scope descends from, if its handle is held. -/
def cancel (f : Forest) (scope : Nat) : Forest :=
  f.modifySignal scope fun s => { s with cancelled := s.cancelled || s.held }

/-- Gives the handle up without using it. -/
def dropHandle (f : Forest) (scope : Nat) : Forest :=
  f.modifySignal scope fun s => { s with held := false }

def advance (f : Forest) (nanos : Nat) : Forest := { f with clock := f.clock + nanos }

end Forest
end WarmupGate.Warmup
