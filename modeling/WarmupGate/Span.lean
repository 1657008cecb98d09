import WarmupGate.Text.Numeral

/-!
# Spans of time

A span is a whole number of nanoseconds. Its text uses the largest unit that does not exceed it and
gives the exact value: a whole part, and the decimal fraction without trailing zeros if there is
one.
-/
namespace WarmupGate

/-- A non-negative amount of time. -/
structure Span where
  nanos : Nat
  deriving DecidableEq, Repr, Inhabited

namespace Span

def zero : Span := ⟨0⟩
def ofSeconds (n : Nat) : Span := ⟨n * 1000000000⟩
def ofMillis (n : Nat) : Span := ⟨n * 1000000⟩

instance : LE Span := ⟨fun a b => a.nanos ≤ b.nanos⟩
instance : LT Span := ⟨fun a b => a.nanos < b.nanos⟩
instance (a b : Span) : Decidable (a ≤ b) := inferInstanceAs (Decidable (a.nanos ≤ b.nanos))
instance (a b : Span) : Decidable (a < b) := inferInstanceAs (Decidable (a.nanos < b.nanos))

theorem le_iff_nanos {a b : Span} : a ≤ b ↔ a.nanos ≤ b.nanos := Iff.rfl

def clamp (low high d : Span) : Span :=
  if d < low then low else if high < d then high else d

/-- The first whole millisecond that is not earlier; a timer due after the span fires then. -/
def ceilMillis (d : Span) : Nat := (d.nanos + 999999) / 1000000

theorem le_ceilMillis (d : Span) : d.nanos ≤ d.ceilMillis * 1000000 := by
  unfold ceilMillis
  omega

/-- A unit that a span is written in: its name, its length and its number of decimal places. -/
structure Scale where
  name : List Char
  nanos : Nat
  places : Nat

/-- The largest unit that does not exceed the span; nanoseconds for the shortest ones. -/
def scale (d : Span) : Scale :=
  if 1000000000 ≤ d.nanos then ⟨['s'], 1000000000, 9⟩
  else if 1000000 ≤ d.nanos then ⟨['m', 's'], 1000000, 6⟩
  else if 1000 ≤ d.nanos then ⟨['µ', 's'], 1000, 3⟩
  else ⟨['n', 's'], 1, 0⟩

/-- The digits of a fraction with the given number of places, without trailing zeros. -/
def fractionDigits (places part : Nat) : List Char :=
  ((Text.fillZeros places (Text.numeral part)).reverse.dropWhile (· == '0')).reverse

def chars (d : Span) : List Char :=
  let unit := d.scale
  let part := d.nanos % unit.nanos
  let fraction := if part = 0 then [] else '.' :: fractionDigits unit.places part
  Text.numeral (d.nanos / unit.nanos) ++ fraction ++ unit.name

/-- The exact value, for instance 1.5s, 12ms or 999ns. -/
def text (d : Span) : String := String.ofList d.chars

end Span
end WarmupGate
