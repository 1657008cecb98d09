/-!
# Classes of characters

A class of characters is held as closed ranges of code points, and a character is looked up by
halving. The classes of this library are those of Unicode 17. The blanks are few enough to be
listed; they are taken off both ends of a text, and the zero-width space and the byte order mark are
not among them.
-/
namespace WarmupGate.Text

/-- Closed ranges of code points, ascending and apart. -/
abbrev Ranges := Array (Nat × Nat)

namespace Ranges

/-- Looks for the range of a code point between two indices. -/
def search (ranges : Ranges) (n : Nat) : Nat → Nat → Nat → Bool
  | 0, _, _ => false
  | fuel + 1, low, high =>
    if high ≤ low then false
    else
      let middle := (low + high) / 2
      match ranges[middle]? with
      | none => false
      | some (first, last) =>
        if n < first then search ranges n fuel low middle
        else if last < n then search ranges n fuel (middle + 1) high
        else true

/-- The character lies in one of the ranges. -/
def has (ranges : Ranges) (c : Char) : Bool :=
  ranges.search c.toNat (ranges.size + 1) 0 ranges.size

end Ranges

/-- The Unicode property White_Space. -/
def isBlank (c : Char) : Bool :=
  let n := c.toNat
  (0x09 ≤ n && n ≤ 0x0d) || n == 0x20 || n == 0x85 || n == 0xa0 || n == 0x1680 ||
    (0x2000 ≤ n && n ≤ 0x200a) || n == 0x2028 || n == 0x2029 || n == 0x202f || n == 0x205f ||
    n == 0x3000

/-- What is left of a text when the blanks at both ends are taken off. -/
def trim (s : List Char) : List Char :=
  ((s.dropWhile isBlank).reverse.dropWhile isBlank).reverse

end WarmupGate.Text
