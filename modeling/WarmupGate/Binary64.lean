import WarmupGate.Text.Numeral

/-!
# Double-precision rounding

Floating-point values are kept as the rationals that they stand for. `nearest` rounds a rational to
the closest value with 53 significant bits and no bit below 2^-1074, ties to the even one, so an
operation in double precision is the exact operation followed by `nearest`. Overflow to infinity
appears only in the stored form that `bits` gives.
-/
namespace WarmupGate.Binary64

def pow2 (k : Int) : Rat :=
  if 0 ≤ k then (Nat.pow 2 k.toNat : Rat) else 1 / (Nat.pow 2 (-k).toNat : Rat)

/-- The exponent of the leading bit of a positive rational. -/
def leadingExponent (x : Rat) : Int :=
  let guess : Int := (x.num.natAbs.log2 : Int) - (x.den.log2 : Int)
  if pow2 guess ≤ x then guess else guess - 1

/-- The exponent of the last bit that a value of this size can have. -/
def lastExponent (x : Rat) : Int := max (leadingExponent x - 52) (-1074)

/-- The closest integer; a tie goes to the even one. -/
def roundHalfEven (x : Rat) : Int :=
  let below := x.floor
  let rest := x - (below : Rat)
  if rest < 1 / 2 then below
  else if 1 / 2 < rest then below + 1
  else if below % 2 = 0 then below
  else below + 1

def nearestPositive (x : Rat) : Rat :=
  let unit := pow2 (lastExponent x)
  (roundHalfEven (x / unit) : Rat) * unit

/-- The closest value of double precision. -/
def nearest (x : Rat) : Rat :=
  if x = 0 then 0 else if x < 0 then -(nearestPositive (-x)) else nearestPositive x

/-- The least mantissa of a value that has all its bits. -/
def hiddenBit : Nat := Nat.pow 2 52

/-- The stored form of a positive value that `nearest` gave. -/
def bitsPositive (x : Rat) : Nat :=
  let unit := lastExponent x
  let mantissa := (x / pow2 unit).floor.toNat
  if mantissa < hiddenBit then mantissa
  else
    let exponent := (unit + 1075).toNat
    if 2047 ≤ exponent then 2047 * hiddenBit else exponent * hiddenBit + (mantissa - hiddenBit)

def bits (x : Rat) : Nat :=
  if x = 0 then 0 else if x < 0 then Nat.pow 2 63 + bitsPositive (-x) else bitsPositive x

/-- The stored form as sixteen hexadecimal digits. -/
def hex (x : Rat) : String := String.ofList (Text.fillZeros 16 (Text.hexNumeral (bits x)))

/-- One decimal place, for values that are not negative; a tie goes to the even digit. -/
def oneDecimal (x : Rat) : String :=
  let tenths := (roundHalfEven (x * 10)).toNat
  Text.decimal (tenths / 10) ++ "." ++ Text.decimal (tenths % 10)

end WarmupGate.Binary64
