import WarmupGate.Text.Clip
import WarmupGate.Text.Numeral

/-!
# Scanning JSON texts

The tokens of JSON, read from the front of a text. Each scanner gives what it read and the text
behind it, or the first thing that is wrong: the text ends too early, it breaks the format, or it
holds a value that has no place there. A string that is skipped may name half of a surrogate pair;
one that is read may not.
-/
namespace WarmupGate.Json

inductive Fault where
  /-- The text breaks the format. -/
  | malformed
  /-- A value of the wrong kind or out of bounds. -/
  | unsuitable
  /-- The text ends too early. -/
  | ended
  deriving DecidableEq, Repr

/-- Reads something from the front of a text and gives the rest. -/
abbrev Reader (α : Type) := List Char → Except Fault (α × List Char)

def isGap (c : Char) : Bool := c == ' ' || c == '\n' || c == '\t' || c == '\r'

def skipGap (s : List Char) : List Char := s.dropWhile isGap

/-- The rest of a word whose first letter was seen. -/
def scanWord : List Char → List Char → Except Fault (List Char)
  | [], s => .ok s
  | _ :: _, [] => .error .ended
  | w :: ws, c :: s => if c = w then scanWord ws s else .error .malformed

/-- Four hexadecimal digits. Text of less than four bytes is too short for them. -/
def scanUnit (s : List Char) : Except Fault (Nat × List Char) :=
  match s with
  | a :: b :: c :: d :: rest =>
    match Text.hexDigit? a, Text.hexDigit? b, Text.hexDigit? c, Text.hexDigit? d with
    | some a, some b, some c, some d => .ok (((a * 16 + b) * 16 + c) * 16 + d, rest)
    | _, _, _, _ => .error .malformed
  | short => if Text.byteCount short < 4 then .error .ended else .error .malformed

def isLeadingHalf (n : Nat) : Bool := 0xd800 ≤ n && n ≤ 0xdbff
def isTrailingHalf (n : Nat) : Bool := 0xdc00 ≤ n && n ≤ 0xdfff

/-- The character of a code in a string; one beyond 16 bits is written as two halves. -/
def scanCode (s : List Char) : Except Fault (Char × List Char) :=
  match scanUnit s with
  | .error f => .error f
  | .ok (n, s) =>
    if isTrailingHalf n then .error .malformed
    else if isLeadingHalf n then
      match s with
      | [] => .error .ended
      | ['\\'] => .error .ended
      | '\\' :: 'u' :: s =>
        match scanUnit s with
        | .error f => .error f
        | .ok (m, s) =>
          if isTrailingHalf m then
            .ok (Char.ofNat ((n - 0xd800) * 0x400 + (m - 0xdc00) + 0x10000), s)
          else .error .malformed
      | _ => .error .malformed
    else .ok (Char.ofNat n, s)

/-- What a letter behind a backslash stands for. -/
def unescape? (c : Char) : Option Char :=
  match c with
  | '"' => some '"'
  | '\\' => some '\\'
  | '/' => some '/'
  | 'b' => some '\x08'
  | 'f' => some '\x0c'
  | 'n' => some '\n'
  | 'r' => some '\r'
  | 't' => some '\t'
  | _ => none

def scanEscape (s : List Char) : Except Fault (Char × List Char) :=
  match s with
  | [] => .error .ended
  | 'u' :: s => scanCode s
  | c :: s =>
    match unescape? c with
    | some d => .ok (d, s)
    | none => .error .malformed

theorem length_scanUnit {s rest : List Char} {n : Nat} (h : scanUnit s = .ok (n, rest)) :
    rest.length < s.length := by
  unfold scanUnit at h
  split at h
  · split at h
    · cases h
      simp only [List.length_cons]
      omega
    · cases h
  · split at h <;> cases h

theorem length_scanCode {s rest : List Char} {c : Char} (h : scanCode s = .ok (c, rest)) :
    rest.length < s.length := by
  unfold scanCode at h
  split at h
  · cases h
  · rename_i n s' first
    have shorter := length_scanUnit first
    split at h
    · cases h
    · split at h
      · split at h
        · cases h
        · cases h
        · split at h
          · cases h
          · rename_i second
            have := length_scanUnit second
            split at h
            · obtain ⟨-, rfl⟩ := Prod.mk.inj (Except.ok.inj h)
              simp only [List.length_cons] at shorter
              omega
            · cases h
        · cases h
      · obtain ⟨-, rfl⟩ := Prod.mk.inj (Except.ok.inj h)
        exact shorter

theorem length_scanEscape {s rest : List Char} {c : Char} (h : scanEscape s = .ok (c, rest)) :
    rest.length < s.length := by
  unfold scanEscape at h
  split at h
  · cases h
  · have := length_scanCode h
    simp only [List.length_cons]
    omega
  · split at h
    · cases h
      simp only [List.length_cons]
      omega
    · cases h

def scanString (s : List Char) : Except Fault (List Char × List Char) :=
  match s with
  | [] => .error .ended
  | '"' :: s => .ok ([], s)
  | '\\' :: s =>
    match _h : scanEscape s with
    | .error f => .error f
    | .ok (c, rest) => (scanString rest).map fun p => (c :: p.1, p.2)
  | c :: s =>
    if c.toNat < 0x20 then .error .malformed
    else (scanString s).map fun p => (c :: p.1, p.2)
termination_by s.length
decreasing_by
  · have := length_scanEscape _h
    simp only [List.length_cons]
    omega
  · simp only [List.length_cons]
    omega

/-- An escape in a skipped string: any four digits make a code. -/
def skipEscape (s : List Char) : Except Fault (List Char) :=
  match s with
  | [] => .error .ended
  | 'u' :: s => (scanUnit s).map Prod.snd
  | c :: s => if (unescape? c).isSome then .ok s else .error .malformed

theorem length_skipEscape {s rest : List Char} (h : skipEscape s = .ok rest) :
    rest.length < s.length := by
  unfold skipEscape at h
  split at h
  · cases h
  · rename_i s'
    cases hs : scanUnit s' with
    | error f => rw [hs] at h; cases h
    | ok p =>
      obtain ⟨n, r⟩ := p
      rw [hs] at h
      cases h
      have := length_scanUnit hs
      simp only [List.length_cons]
      omega
  · split at h
    · cases h
      simp only [List.length_cons]
      omega
    · cases h

/-- What follows a string behind its opening quote. -/
def skipString (s : List Char) : Except Fault (List Char) :=
  match s with
  | [] => .error .ended
  | '"' :: s => .ok s
  | '\\' :: s =>
    match _h : skipEscape s with
    | .error f => .error f
    | .ok rest => skipString rest
  | c :: s => if c.toNat < 0x20 then .error .malformed else skipString s
termination_by s.length
decreasing_by
  · have := length_skipEscape _h
    simp only [List.length_cons]
    omega
  · simp only [List.length_cons]
    omega

/-- A number as it is written. Without a point and an exponent it is plain. -/
structure Numeral where
  negative : Bool
  whole : List Char
  fraction : List Char := []
  exponentNegative : Bool := false
  exponent : List Char := []
  deriving DecidableEq, Repr

namespace Numeral

def plain (n : Numeral) : Bool := n.fraction.isEmpty && n.exponent.isEmpty

def significant (n : Numeral) : List Char := (n.whole ++ n.fraction).dropWhile (· == '0')

/-- The number is 0.d₁d₂… times ten to this power, where d₁d₂… are the significant digits. -/
def magnitude (n : Numeral) : Int :=
  let power : Int := Text.digitsValue n.exponent
  (n.significant.length : Int) - (n.fraction.length : Int) +
    (if n.exponentNegative then -power else power)

/-- Halfway between the largest value of double precision and the next power of two, where numbers
begin to be too large. -/
def doubleLimit : Nat := Nat.pow 2 1024 - Nat.pow 2 970

/-- Too large for double precision. -/
def excessive (n : Numeral) : Bool :=
  !n.significant.isEmpty &&
    (309 < n.magnitude ||
      (n.magnitude == 309 &&
        decide (doubleLimit * Text.tenPower n.significant.length ≤
          Text.digitsValue n.significant * Text.tenPower 309)))

end Numeral

/-- The digits before a point or exponent. Only zero itself starts with a zero. -/
def scanWhole (s : List Char) : Except Fault (List Char × List Char) :=
  match s with
  | [] => .error .ended
  | '0' :: s => if (s.head?).any Text.isDigit then .error .malformed else .ok (['0'], s)
  | c :: s =>
    if Text.isDigit c then .ok (c :: s.takeWhile Text.isDigit, s.dropWhile Text.isDigit)
    else .error .malformed

def scanDigits (s : List Char) : Except Fault (List Char × List Char) :=
  match s with
  | [] => .error .ended
  | c :: s =>
    if Text.isDigit c then .ok (c :: s.takeWhile Text.isDigit, s.dropWhile Text.isDigit)
    else .error .malformed

/-- A point and the digits behind it, if there is a point. -/
def scanFraction (s : List Char) : Except Fault (List Char × List Char) :=
  match s with
  | '.' :: s => scanDigits s
  | s => .ok ([], s)

def splitExponentSign : List Char → Bool × List Char
  | '+' :: s => (false, s)
  | '-' :: s => (true, s)
  | s => (false, s)

def scanExponent (s : List Char) : Except Fault ((Bool × List Char) × List Char) :=
  match s with
  | c :: s =>
    if c = 'e' ∨ c = 'E' then
      let signed := splitExponentSign s
      (scanDigits signed.2).map fun p => ((signed.1, p.1), p.2)
    else .ok ((false, []), c :: s)
  | [] => .ok ((false, []), [])

def splitMinus : List Char → Bool × List Char
  | '-' :: s => (true, s)
  | s => (false, s)

/-- A number from its sign or first digit on. -/
def scanNumeral (s : List Char) : Except Fault (Numeral × List Char) := do
  let signed := splitMinus s
  let (whole, s) ← scanWhole signed.2
  let (fraction, s) ← scanFraction s
  let ((exponentNegative, exponent), s) ← scanExponent s
  pure ({ negative := signed.1, whole, fraction, exponentNegative, exponent }, s)

/-- What follows a number. In skipped text a number that is cut short breaks the format. -/
def skipNumeral (s : List Char) : Except Fault (List Char) :=
  match scanNumeral s with
  | .ok (_, rest) => .ok rest
  | .error _ => .error .malformed

end WarmupGate.Json
