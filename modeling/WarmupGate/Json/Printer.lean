import WarmupGate.Json
import WarmupGate.Text.Numeral

/-!
# JSON texts of values

The compact text of a value: no blanks, members in their order, and in strings an escape only where
the format asks for one.
-/
namespace WarmupGate.Json

def escapeChar (c : Char) : List Char :=
  match c with
  | '"' => ['\\', '"']
  | '\\' => ['\\', '\\']
  | '\x08' => ['\\', 'b']
  | '\t' => ['\\', 't']
  | '\n' => ['\\', 'n']
  | '\x0c' => ['\\', 'f']
  | '\r' => ['\\', 'r']
  | c => if c.toNat < 0x20 then ['\\', 'u'] ++ Text.fillZeros 4 (Text.hexNumeral c.toNat) else [c]

def stringChars (s : String) : List Char := '"' :: s.toList.flatMap escapeChar ++ ['"']

mutual

def chars : Json → List Char
  | .null => ['n', 'u', 'l', 'l']
  | .bool true => ['t', 'r', 'u', 'e']
  | .bool false => ['f', 'a', 'l', 's', 'e']
  | .number n p => Text.pointNumeral n p
  | .string s => stringChars s
  | .array [] => ['[', ']']
  | .array (v :: vs) => '[' :: chars v ++ itemsChars vs
  | .object [] => ['\x7b', '\x7d']
  | .object ((name, v) :: ms) => '\x7b' :: stringChars name ++ ':' :: chars v ++ membersChars ms

/-- The items behind the first one, with their commas, and the end of the list. -/
def itemsChars : List Json → List Char
  | [] => [']']
  | v :: vs => ',' :: chars v ++ itemsChars vs

/-- The members behind the first one, with their commas, and the end of the object. -/
def membersChars : List (String × Json) → List Char
  | [] => ['\x7d']
  | (name, v) :: ms => ',' :: stringChars name ++ ':' :: chars v ++ membersChars ms

end

def text (v : Json) : String := String.ofList v.chars

end WarmupGate.Json
