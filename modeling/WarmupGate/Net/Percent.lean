import WarmupGate.Text.Numeral

/-!
# Percent encoding

A character that a part of an address cannot hold is written as its bytes, each as a percent sign
and two digits. Parts differ in what they hold, but none holds controls or characters outside ASCII.
-/
namespace WarmupGate.Net

/-- The parts of an address that characters are encoded for. -/
inductive Part where
  | credentials
  | path
  | query
  /-- The query of an address whose scheme has rules of its own. -/
  | specialQuery
  | fragment
  /-- All that follows the scheme of an address without an authority. -/
  | plain
  deriving DecidableEq, Repr

namespace Part

def isControl (c : Char) : Bool := c.toNat < 0x20 || 0x7f ≤ c.toNat

def notInFragment : List Char := [' ', '"', '<', '>', '\x60']
def notInPath : List Char := notInFragment ++ ['#', '?', '\x7b', '\x7d']
def notInCredentials : List Char := notInPath ++ ['/', ':', ';', '=', '@', '[', '\\', ']', '^', '|']
def notInQuery : List Char := [' ', '"', '#', '<', '>']

/-- The characters, besides controls, that the part holds only in encoded form. -/
def excluded : Part → List Char
  | .credentials => notInCredentials
  | .path => notInPath
  | .query => notInQuery
  | .specialQuery => '\'' :: notInQuery
  | .fragment => notInFragment
  | .plain => []

end Part

namespace Percent

/-- The bytes of a character, each as a percent sign and two digits. -/
def encodeChar (c : Char) : List Char :=
  (String.singleton c).toUTF8.toList.flatMap fun b =>
    '%' :: Text.fillZeros 2 ((Text.hexNumeral b.toNat).map Char.toUpper)

/-- The text as the part holds it. A percent sign stays as it is. -/
def encode (part : Part) (s : List Char) : List Char :=
  s.flatMap fun c => if Part.isControl c || part.excluded.contains c then encodeChar c else [c]

/-- The bytes of a text in which a percent sign and two digits stand for a byte. -/
def decode : List Char → List UInt8
  | '%' :: a :: b :: rest =>
    match Text.hexDigit? a, Text.hexDigit? b with
    | some high, some low => UInt8.ofNat (high * 16 + low) :: decode rest
    | _, _ => '%'.toUInt8 :: decode (a :: b :: rest)
  | c :: rest => (String.singleton c).toUTF8.toList ++ decode rest
  | [] => []

end Percent
end WarmupGate.Net
