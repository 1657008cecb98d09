/-!
# Punycode

Any text written with the letters, digits and hyphens of ASCII. Its ASCII characters come first,
with a hyphen behind them. The others follow in ascending order, each as the distance to the one
before it: how many places there are to step over, when all places of the text so far are counted
for each code point in between. Distances are written with the digits a to z and 0 to 9, least
significant first. Which digits end a number depends on how large the last distance was.
-/
namespace WarmupGate.Text.Punycode

def base : Nat := 36

/-- The code point before the first one that is encoded. -/
def firstCode : Nat := 128

/-- What the digits are measured by at first. -/
def firstBias : Nat := 72

def digit (d : Nat) : Char :=
  if d < 26 then Char.ofNat ('a'.toNat + d) else Char.ofNat ('0'.toNat + d - 26)

def digit? (c : Char) : Option Nat :=
  if 'a' ≤ c && c ≤ 'z' then some (c.toNat - 'a'.toNat)
  else if 'A' ≤ c && c ≤ 'Z' then some (c.toNat - 'A'.toNat)
  else if '0' ≤ c && c ≤ '9' then some (c.toNat - '0'.toNat + 26)
  else none

/-- The digits below this one end a number; the place counts in steps of the base. -/
def threshold (bias place : Nat) : Nat := max 1 (min 26 (place - bias))

theorem threshold_pos (bias place : Nat) : 1 ≤ threshold bias place := by
  unfold threshold
  omega

def biasFrom (d place : Nat) : Nat :=
  if 455 < d then biasFrom (d / 35) (place + base) else place + base * d / (d + 38)
termination_by d
decreasing_by exact Nat.div_lt_self (by omega) (by omega)

/-- The measure after a distance, when the text has a given length with the new character. -/
def adapt (distance length : Nat) (isFirst : Bool) : Nat :=
  let d := if isFirst then distance / 700 else distance / 2
  biasFrom (d + d / length) 0

/-- The digits of a distance from a place on. -/
def digits (bias place distance : Nat) : List Char :=
  let t := threshold bias place
  if distance < t then [digit distance]
  else
    digit (t + (distance - t) % (base - t)) ::
      digits bias (place + base) ((distance - t) / (base - t))
termination_by distance
decreasing_by
  have := threshold_pos bias place
  calc (distance - threshold bias place) / (base - threshold bias place)
      ≤ distance - threshold bias place := Nat.div_le_self _ _
    _ < distance := by omega

def isBasic (c : Char) : Bool := c.toNat < firstCode

/-- Each character that is encoded, with the number of characters in front of it when it is put in:
those in front that are smaller or equal. -/
def insertions (before : List Char) : List Char → List (Char × Nat)
  | [] => []
  | c :: rest =>
    if isBasic c then insertions (c :: before) rest
    else (c, (before.filter (· ≤ c)).length) :: insertions (c :: before) rest

/-- Encodes the insertions, when the last one was of a code point in front of a place, and the text
had a given length. -/
def encodeFrom (bias code place length : Nat) (isFirst : Bool) : List (Char × Nat) → List Char
  | [] => []
  | (c, i) :: rest =>
    let distance := (c.toNat - code) * (length + 1) + i - place
    digits bias base distance ++
      encodeFrom (adapt distance (length + 1) isFirst) c.toNat (i + 1) (length + 1) false rest

def encode (s : List Char) : List Char :=
  let basic := s.filter isBasic
  let todo := (insertions [] s).mergeSort fun a b => a.1 < b.1 || a.1 == b.1 && a.2 ≤ b.2
  (if basic.isEmpty then [] else basic ++ ['-']) ++
    encodeFrom firstBias firstCode 0 basic.length true todo

structure Decoded where
  text : List Char
  code : Nat := firstCode
  /-- Where the next character of the same code would go at the earliest. -/
  place : Nat := 0
  bias : Nat := firstBias
  isFirst : Bool := true
  /-- The distance that is being read, what its next digit counts, and where that stands. -/
  distance : Nat := 0
  weight : Nat := 1
  digitPlace : Nat := base
  deriving Repr

namespace Decoded

/-- A distance has been read: the character is put in. -/
def insert? (s : Decoded) (distance : Nat) : Option Decoded :=
  let length := s.text.length + 1
  let steps := s.place + distance
  let code := s.code + steps / length
  if code.isValidChar then
    some {
      text := s.text.insertIdx (steps % length) (Char.ofNat code)
      code
      place := steps % length + 1
      bias := adapt distance length s.isFirst
      isFirst := false }
  else none

def push? (s : Decoded) (c : Char) : Option Decoded := do
  let d ← digit? c
  let distance := s.distance + d * s.weight
  let t := threshold s.bias s.digitPlace
  if d < t then s.insert? distance
  else
    pure { s with
      distance
      weight := s.weight * (base - t)
      digitPlace := s.digitPlace + base }

/-- No number is left unfinished. -/
def isComplete (s : Decoded) : Bool := s.digitPlace == base

end Decoded

/-- The two sides of the last hyphen; without one all is on the second side. A hyphen has something
in front of it. -/
def splitLastHyphen? (s : List Char) : Option (List Char × List Char) :=
  match s.reverse.dropWhile (· != '-') with
  | [] => some ([], s)
  | [_] => none
  | _ :: front => some (front.reverse, (s.reverse.takeWhile (· != '-')).reverse)

/-- The text that an encoded text stands for. -/
def decode? (s : List Char) : Option (List Char) := do
  let (basic, tail) ← splitLastHyphen? s
  let start : Decoded := { text := basic }
  let decoded ← tail.foldlM Decoded.push? start
  if basic.all isBasic && decoded.isComplete then some decoded.text else none

end WarmupGate.Text.Punycode
