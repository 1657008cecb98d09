import WarmupGate.Text.Numeral

/-!
# Integers in machine words

How many values a word has, and how an integer between bounds is read: an optional sign and then
nothing but digits. Numbers that are kept in words are natural numbers below the size of the word. A
text that breaks a rule is refused with the first rule that it breaks, read from the left.
-/
namespace WarmupGate.Word

/-- The number of values of a word with this many bits. -/
def size (bits : Nat) : Nat := Nat.pow 2 bits

theorem size_32 : size 32 = 4294967296 := rfl
theorem size_64 : size 64 = 18446744073709551616 := rfl

theorem size_pos (bits : Nat) : 0 < size bits := Nat.pow_pos (by decide)

end WarmupGate.Word

namespace WarmupGate.Text

/-- Why a text is not an integer within the bounds. -/
inductive IntegerFault where
  | empty
  | invalidDigit
  | tooLarge
  | tooSmall
  deriving DecidableEq, Repr

def IntegerFault.message : IntegerFault → String
  | .empty => "cannot parse integer from empty string"
  | .invalidDigit => "invalid digit found in string"
  | .tooLarge => "number too large to fit in target type"
  | .tooSmall => "number too small to fit in target type"

/-- Adds digits to a non-negative start and stops at the first stray character or excess. -/
def addDigits (upper : Nat) : Nat → List Char → Except IntegerFault Nat
  | n, [] => .ok n
  | n, c :: rest =>
    if isDigit c then
      let next := n * 10 + (c.toNat - '0'.toNat)
      if upper < next then
        -- a stray character behind the excess does not count any more
        .error .tooLarge
      else addDigits upper next rest
    else .error .invalidDigit

/-- Integers from `-lower` to `upper`. Without a minus in the bounds, a minus in front is stray. -/
def readInteger (lower upper : Nat) (s : List Char) : Except IntegerFault Int :=
  match s with
  | [] => .error .empty
  | ['+'] => .error .invalidDigit
  | ['-'] => .error .invalidDigit
  | '+' :: digits => (addDigits upper 0 digits).map Int.ofNat
  | '-' :: digits =>
    if lower = 0 then .error .invalidDigit
    else
      match addDigits lower 0 digits with
      | .ok n => .ok (-(Int.ofNat n))
      | .error .tooLarge => .error .tooSmall
      | .error fault => .error fault
  | digits => (addDigits upper 0 digits).map Int.ofNat

def readInt64 (s : List Char) : Except IntegerFault Int :=
  readInteger (Word.size 63) (Word.size 63 - 1) s

def readWord64 (s : List Char) : Except IntegerFault Nat :=
  (readInteger 0 (Word.size 64 - 1) s).map Int.toNat

end WarmupGate.Text
