/-!
# Numerals

Natural numbers written with the ten ASCII digits and no leading zero, and the value of a run of
digits. Reading back what was written gives the number again. A number over a power of ten is
written with a point and as many places behind it as the power says. Of the sixteen hexadecimal
digits the letters are read in either case and written in lower case.
-/
namespace WarmupGate.Text

def isDigit (c : Char) : Bool := '0' ≤ c && c ≤ '9'

/-- Nothing but digits, possibly none. -/
def Digits (s : List Char) : Prop := ∀ c ∈ s, isDigit c = true

instance (s : List Char) : Decidable (Digits s) :=
  decidable_of_iff (s.all isDigit = true) List.all_eq_true

@[simp] theorem digits_nil : Digits [] := fun _ none => absurd none List.not_mem_nil

@[simp] theorem digits_cons {c : Char} {s : List Char} :
    Digits (c :: s) ↔ isDigit c = true ∧ Digits s := List.forall_mem_cons

def numeral (n : Nat) : List Char := Nat.toDigits 10 n

/-- Digits without a zero in front of others. -/
structure IsNumeral (s : List Char) : Prop where
  some : s ≠ []
  digits : Digits s
  bare : s.head? = .some '0' → s = ['0']

/-- The value of a run of digits, most significant first. -/
def digitsValue (s : List Char) : Nat := Nat.ofDigitChars 10 s 0

theorem digitsValue_numeral (n : Nat) : digitsValue (numeral n) = n :=
  Nat.ofDigitChars_toDigits (by decide) (by decide)

def decimal (n : Nat) : String := String.ofList (numeral n)

/-- A number as text with a sign when it is negative. -/
def signedDecimal : Int → String
  | .ofNat n => decimal n
  | .negSucc n => "-" ++ decimal (n + 1)

def tenPower (n : Nat) : Nat := Nat.pow 10 n

/-- Digits with zeros in front up to a width. -/
def fillZeros (width : Nat) (digits : List Char) : List Char :=
  List.replicate (width - digits.length) '0' ++ digits

theorem length_fillZeros {width : Nat} {digits : List Char} (h : digits.length ≤ width) :
    (fillZeros width digits).length = width := by
  simp only [fillZeros, List.length_append, List.length_replicate]
  omega

/-- An integer over a power of ten, with a point if there are places behind it. -/
def pointNumeral (unscaled : Int) (places : Nat) : List Char :=
  let sign := if unscaled < 0 then ['-'] else []
  let digits := numeral unscaled.natAbs
  if places = 0 then sign ++ digits
  else
    let filled := fillZeros (places + 1) digits
    let whole := filled.length - places
    sign ++ filled.take whole ++ '.' :: filled.drop whole

/-- Natural numbers without leading zeros. -/
def hexNumeral (n : Nat) : List Char := Nat.toDigits 16 n

def hexDigit? (c : Char) : Option Nat :=
  if '0' ≤ c && c ≤ '9' then some (c.toNat - '0'.toNat)
  else if 'a' ≤ c && c ≤ 'f' then some (c.toNat - 'a'.toNat + 10)
  else if 'A' ≤ c && c ≤ 'F' then some (c.toNat - 'A'.toNat + 10)
  else none

/-- The value of a run of digits, most significant first. -/
def hexValue? (s : List Char) : Option Nat :=
  s.foldl (fun value c => do pure ((← value) * 16 + (← hexDigit? c))) (some 0)

end WarmupGate.Text
