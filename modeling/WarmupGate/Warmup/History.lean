import WarmupGate.Warmup.Scope

/-!
# Histories of scopes

A history holds what was done to a forest, newest first. The forest after it is what the moves have
made of it, one after the other. How and when each scope was made is on record beside it, with the
scope that it was made from, so what a scope descends from can be told without the forest. The clock
goes in nanoseconds, and instants have no last one.
-/
namespace WarmupGate.Warmup

/-- Something that is done to a forest. Scopes go by their numbers; a move that names none of them
does nothing. -/
inductive Move where
  | background
  | withCancel
  | withTimeout (parent : Nat) (timeout : Span)
  | clone (original : Nat)
  /-- The handle that the scope descends from is used. -/
  | cancel (scope : Nat)
  | dropHandle (scope : Nat)
  | advance (nanos : Nat)
  deriving DecidableEq, Repr

def Forest.perform (f : Forest) : Move → Forest
  | .background => f.background
  | .withCancel => f.withCancel
  | .withTimeout parent timeout => f.withTimeout parent timeout
  | .clone original => f.clone original
  | .cancel scope => f.cancel scope
  | .dropHandle scope => f.dropHandle scope
  | .advance nanos => f.advance nanos

/-- What was done so far, newest first. -/
abbrev History := List Move

/-- What is on record of a scope. -/
structure Birth where
  /-- The scope that it was made from; a root has none. -/
  parent : Option Nat := none
  /-- The time that it was given, from its making on. -/
  timeout : Option Span := none
  /-- When it was made. -/
  instant : Nat
  /-- A root that was made with a handle. -/
  handle : Bool := false
  deriving DecidableEq, Repr

namespace History

def forest : History → Forest
  | [] => {}
  | move :: past => (forest past).perform move

/-- The nanoseconds that have passed. -/
def elapsed : History → Nat
  | [] => 0
  | .advance nanos :: past => elapsed past + nanos
  | _ :: past => elapsed past

/-- The scope that a move makes when there are so many already. -/
def born (count instant : Nat) : Move → Option Birth
  | .background => some { instant }
  | .withCancel => some { instant, handle := true }
  | .withTimeout parent timeout => if parent < count then some { parent, timeout, instant } else none
  | .clone original => if original < count then some { parent := original, instant } else none
  | .cancel _ => none
  | .dropHandle _ => none
  | .advance _ => none

/-- The scopes in the order of their making. -/
def births : History → List Birth
  | [] => []
  | move :: past => births past ++ (born (births past).length (elapsed past) move).toList

def deadline? (h : History) (i : Nat) : Option Span := (h.forest.scopes[i]?).bind Scope.deadline

/-- Why a scope is over, if it is. -/
def cause? (h : History) (i : Nat) : Option Cause := (h.forest.scopes[i]?).bind h.forest.err

/-- What is heard of the end of a scope. -/
def poll (h : History) (i : Nat) : Forest.Ending :=
  (h.forest.scopes[i]?).elim .pending h.forest.ending

end History

def Forest.Ending.Shows : Forest.Ending → Cause → Prop
  | .pending, _ => False
  | .heard cause, shown => cause = shown
  | .either, _ => True

/-- A wait for the end of a scope: what was done so far, and when and why the wait was over. -/
structure Wait where
  history : History
  outcome : Option (Nat × Cause) := none

namespace Wait

/-- What may happen next. No time passes while a wait can be over; otherwise the clock may go on by
any number of nanoseconds at once. -/
inductive Step (i : Nat) : Wait → Wait → Prop
  | act {w : Wait} (move : Move) : (∀ nanos, move ≠ .advance nanos) →
      Step i w { w with history := move :: w.history }
  | pass {w : Wait} (nanos : Nat) : (w.outcome = none → w.history.poll i = .pending) →
      Step i w { w with history := .advance nanos :: w.history }
  | wake {w : Wait} {cause : Cause} : w.outcome = none → (w.history.poll i).Shows cause →
      Step i w { w with outcome := some (w.history.elapsed, cause) }

/-- A state of a wait for a scope that was not over when the wait began. -/
inductive Reachable (begun : History) (i : Nat) : Wait → Prop
  | start : i < begun.births.length → begun.cause? i = none → Reachable begun i ⟨begun, none⟩
  | step {w v : Wait} : Reachable begun i w → Step i w v → Reachable begun i v

end Wait
end WarmupGate.Warmup
