import WarmupGate.Text.CombiningClass
import WarmupGate.Text.Composite

/-!
# Composed form

Two texts that differ only in how letters and marks are put together have one composed form: every
composite is taken apart, marks that do not get in each other's way are brought into the order of
their classes, and what can be joined again is joined, each character with the last one before it
that is no mark, unless something of its own class or above stands between them.
-/
namespace WarmupGate.Text

/-- No composite takes more steps to be taken apart. -/
def compositeDepth : Nat := 3

/-- The parts of a character, which are taken apart in turn as often as the depth says. -/
def parts : Nat → Char → List Char
  | 0, c => [c]
  | depth + 1, c =>
    match split? c with
    | some (first, second) => parts depth first ++ [second]
    | none => [c]

/-- Puts a mark behind the last one whose class is not above its own; the text is given from its
end. -/
def settle (c : Char) : List Char → List Char
  | [] => [c]
  | d :: rest =>
    if combiningClass c < combiningClass d then d :: settle c rest else c :: d :: rest

/-- The text with runs of marks in the order of their classes. -/
def ordered (s : List Char) : List Char :=
  (s.foldl (fun done c => if combiningClass c = 0 then c :: done else settle c done) []).reverse

structure Joined where
  /-- What is finished, from its end. -/
  done : List Char := []
  /-- The last character that is no mark. -/
  base : Option Char := none
  /-- The marks since then that were not joined, from their end. -/
  marks : List Char := []
  deriving Repr

namespace Joined

/-- Nothing between the base and a character keeps them apart. -/
def reaches (j : Joined) (c : Char) : Bool :=
  j.marks.all fun m => decide (combiningClass m < combiningClass c)

def all (j : Joined) : List Char := j.marks ++ j.base.toList ++ j.done

def push (j : Joined) (c : Char) : Joined :=
  match if j.reaches c then j.base.bind (join? · c) else none with
  | some whole => { j with base := some whole }
  | none =>
    if combiningClass c = 0 then { done := j.all, base := some c }
    else { j with marks := c :: j.marks }

end Joined

def compose (s : List Char) : List Char :=
  ((ordered (s.flatMap (parts compositeDepth))).foldl Joined.push {}).all.reverse

end WarmupGate.Text
