import WarmupGate.Span
import WarmupGate.Text.Quoted
import WarmupGate.Text.Integer

/-!
# Reading spans

A span is written as an optional sign and then either a bare zero or one or more components. A
component is a decimal number and a unit; the unit extends to the next digit or point. What stands
behind the eighteenth place of a fraction is dropped, and so is what is less than a nanosecond.
Components are computed in 128 bits; the sum has to fit into 64 bits. One addition is left to the
machine: where it leaves the 128 bits, a build with overflow checks stops, and one without goes on
with what is left. Nothing is said here about which spans are useful.
-/
namespace WarmupGate.Span

/-- Why a reader gives no span. All but the last are told of the text; an overflow is not told but
stops the program. -/
inductive Fault where
  | empty
  | numberExpected
  | unitMissing
  | unitUnknown (unit : String)
  | numberOutOfRange
  | outOfRange
  | overflow
  deriving DecidableEq, Repr

def Fault.message : Fault → String
  | .empty => "empty duration"
  | .numberExpected => "expected a number"
  | .unitMissing => "missing unit"
  | .unitUnknown unit => "unknown unit " ++ Text.quote unit
  | .numberOutOfRange => "number out of range"
  | .outOfRange => "duration out of range"
  | .overflow => "attempt to add with overflow"

/-- A span with a sign. Zero has no negative form. -/
inductive Signed where
  | positive (magnitude : Span)
  | negative (magnitude : Span)
  deriving DecidableEq, Repr

/-- Two spellings of the micro sign are accepted besides the plain letter. -/
def unitNanos (unit : List Char) : Option Nat :=
  match unit with
  | ['n', 's'] => some 1
  | ['u', 's'] => some 1000
  | ['\u00b5', 's'] => some 1000
  | ['\u03bc', 's'] => some 1000
  | ['m', 's'] => some 1000000
  | ['s'] => some 1000000000
  | ['m'] => some (60 * 1000000000)
  | ['h'] => some (60 * 60 * 1000000000)
  | _ => none

def startsNumber (c : Char) : Bool := Text.isDigit c || c == '.'

/-- Arithmetic on components has this many values. -/
def wide : Nat := Word.size 128

/-- Whether a program is built with overflow checks. -/
inductive Build where
  | checked
  | unchecked
  deriving DecidableEq, Repr

/-- An addition of wide words that the program itself does not guard. -/
def Build.add (b : Build) (m n : Nat) : Except Fault Nat :=
  if m + n < wide then .ok (m + n)
  else
    match b with
    | .checked => .error .overflow
    | .unchecked => .ok ((m + n) % wide)

theorem Build.add_of_lt {m n : Nat} {b : Build} (h : m + n < wide) : b.add m n = .ok (m + n) :=
  if_pos h

theorem Build.add_checked_of_le {m n : Nat} (h : wide ≤ m + n) :
    Build.checked.add m n = .error .overflow :=
  if_neg (Nat.not_lt.2 h)

theorem Build.add_unchecked (m n : Nat) : Build.unchecked.add m n = .ok ((m + n) % wide) := by
  by_cases h : m + n < wide
  · rw [Build.add_of_lt h, Nat.mod_eq_of_lt h]
  · exact if_neg h

/-- A component split into its parts, before any of them is looked at. -/
structure Component where
  whole : List Char
  fraction : List Char
  unit : List Char

/-- The digits behind a point, if there is one, and what follows them. -/
def splitFraction : List Char → List Char × List Char
  | '.' :: s => (s.takeWhile Text.isDigit, s.dropWhile Text.isDigit)
  | s => ([], s)

/-- The first component of a text and what follows it. -/
def splitComponent (s : List Char) : Component × List Char :=
  let body := splitFraction (s.dropWhile Text.isDigit)
  (⟨s.takeWhile Text.isDigit, body.1, body.2.takeWhile (!startsNumber ·)⟩,
    body.2.dropWhile (!startsNumber ·))

theorem length_takeWhile_add_dropWhile {α : Type} (p : α → Bool) (s : List α) :
    (s.takeWhile p).length + (s.dropWhile p).length = s.length := by
  rw [← List.length_append, List.takeWhile_append_dropWhile]

theorem length_splitFraction (s : List Char) : (splitFraction s).2.length ≤ s.length := by
  unfold splitFraction
  split
  · have := length_takeWhile_add_dropWhile Text.isDigit ‹List Char›
    simp only [List.length_cons]
    omega
  · exact Nat.le_refl _

theorem length_splitComponent (s : List Char) :
    (splitComponent s).2.length + (splitComponent s).1.unit.length ≤ s.length := by
  have whole := length_takeWhile_add_dropWhile Text.isDigit s
  have fraction := length_splitFraction (s.dropWhile Text.isDigit)
  have unit := length_takeWhile_add_dropWhile (!startsNumber ·)
    (splitFraction (s.dropWhile Text.isDigit)).2
  simp only [splitComponent]
  omega

/-- The nanoseconds that a fraction adds, from its first eighteen places. -/
def fractionNanos (scale : Nat) (fraction : List Char) : Nat :=
  let digits := fraction.take 18
  Text.digitsValue digits * scale / Text.tenPower digits.length

/-- The value of a component, or the first rule that it breaks. -/
def Component.nanos (c : Component) (b : Build) : Except Fault Nat :=
  if c.whole.isEmpty && c.fraction.isEmpty then .error .numberExpected
  else if c.unit.isEmpty then .error .unitMissing
  else
    match unitNanos c.unit with
    | none => .error (.unitUnknown (String.ofList c.unit))
    | some scale =>
      let whole := Text.digitsValue c.whole
      if wide ≤ whole then .error .numberOutOfRange
      else if wide ≤ whole * scale then .error .outOfRange
      else b.add (whole * scale) (fractionNanos scale c.fraction)

theorem Component.length_unit_pos {c : Component} {b : Build} {n : Nat} (h : c.nanos b = .ok n) :
    0 < c.unit.length := by
  unfold Component.nanos at h
  split at h
  · cases h
  · split at h
    · cases h
    · rename_i hu
      cases hc : c.unit with
      | nil => simp [hc] at hu
      | cons => simp

/-- Adds the components of a text to a start. -/
def sumComponents (b : Build) (total : Nat) (s : List Char) : Except Fault Nat :=
  if s = [] then .ok total
  else
    match _h : (splitComponent s).1.nanos b with
    | .error fault => .error fault
    | .ok nanos =>
      if wide ≤ total + nanos then .error .outOfRange
      else sumComponents b (total + nanos) (splitComponent s).2
termination_by s.length
decreasing_by
  have := length_splitComponent s
  have := Component.length_unit_pos _h
  omega

def readMagnitude (b : Build) (s : List Char) : Except Fault Span :=
  if s = ['0'] then .ok zero
  else if s = [] then .error .empty
  else
    match sumComponents b 0 s with
    | .error fault => .error fault
    | .ok total => if Word.size 64 ≤ total then .error .outOfRange else .ok ⟨total⟩

def splitSign : List Char → Bool × List Char
  | '-' :: s => (true, s)
  | '+' :: s => (false, s)
  | s => (false, s)

def readIn (b : Build) (s : List Char) : Except Fault Signed :=
  match readMagnitude b (splitSign s).2 with
  | .error fault => .error fault
  | .ok d => .ok (if (splitSign s).1 && d.nanos != 0 then .negative d else .positive d)

/-- What the controller reads of a text, built without overflow checks. -/
def read (s : List Char) : Except Fault Signed := readIn .unchecked s

end WarmupGate.Span
