import WarmupGate.Net.HostName
import WarmupGate.Net.Percent

/-!
# Hosts

A host is an address in brackets, a dotted address of one to four numbers, or a name. In the schemes
with rules of their own it has one normal form, in ASCII; in others it is held as it is written.
-/
namespace WarmupGate.Net.Host

/-- A number of a dotted host: decimal, octal behind a zero, hexadecimal behind 0x. -/
def readNumber? (s : List Char) : Option Nat :=
  match s with
  | [] => none
  | '0' :: 'x' :: digits => Text.hexValue? digits
  | '0' :: 'X' :: digits => Text.hexValue? digits
  | '0' :: digits =>
    if digits.all (fun c => '0' ≤ c && c ≤ '7') then some (Nat.ofDigitChars 8 digits 0) else none
  | digits => if digits.all Text.isDigit then some (Text.digitsValue digits) else none

/-- The parts of a dotted host; an empty one at the end does not count. -/
def parts (s : List Char) : List (List Char) :=
  let all := splitOn '.' s
  if 1 < all.length && all.getLast? == some [] then all.dropLast else all

/-- A host whose last part is a number has to be an address. -/
def endsInNumber (s : List Char) : Bool :=
  match (parts s).getLast? with
  | none => false
  | some part =>
    (!part.isEmpty && part.all Text.isDigit) ||
      (part.take 2 == ['0', 'x'] || part.take 2 == ['0', 'X']) &&
        (Text.hexValue? (part.drop 2)).isSome

/-- The bytes of an address in front and what fills the rest, of which there are so many values. -/
def fillV4? (front : List Nat) (size rest : Nat) : Option Nat :=
  if front.all (· < 256) && rest < size then
    some (front.foldl (fun value byte => value * 256 + byte) 0 * size + rest)
  else none

/-- The address of a dotted host of up to four numbers; the last one fills what is left. -/
def readV4? (s : List Char) : Option Nat :=
  match (parts s).mapM readNumber? with
  | some [d] => fillV4? [] 4294967296 d
  | some [a, d] => fillV4? [a] 16777216 d
  | some [a, b, d] => fillV4? [a, b] 65536 d
  | some [a, b, c, d] => fillV4? [a, b, c] 256 d
  | _ => none

/-- The characters that no host name may hold. -/
def isForbidden (c : Char) : Bool :=
  c.toNat ≤ 0x20 || c.toNat = 0x7f ||
    ['#', '/', ':', '<', '>', '?', '@', '[', '\\', ']', '^', '|', '%'].contains c

/-- The characters of host names for which a request can be made out. -/
def isPlain (c : Char) : Bool :=
  c.isAlphanum ||
    ['-', '.', '_', '~', '!', '$', '&', '\'', '(', ')', '*', '+', ',', ';', '='].contains c

/-- A request can be made out for the host: a few names have characters that stand in its way. -/
def isRequestable (host : List Char) : Bool := host.head? == some '[' || host.all isPlain

def readBracketed? (s : List Char) : Option (List Char) :=
  match s.getLast? with
  | some ']' => (Address.readV6? s.dropLast).map fun g => '[' :: Address.v6Text g ++ [']']
  | _ => none

def read? (s : List Char) : Option (List Char) :=
  match s with
  | [] => none
  | '[' :: rest => readBracketed? rest
  | _ => do
    let written ← String.fromUTF8? ⟨(Percent.decode s).toArray⟩
    let name ← HostName.toAscii? written.toList
    if name.isEmpty || name.any isForbidden then none
    else if endsInNumber name then (readV4? name).map Address.v4Text
    else some name

/-- A host under a scheme without rules for hosts. -/
def readAsWritten? (s : List Char) : Option (List Char) :=
  match s with
  | [] => none
  | '[' :: rest => readBracketed? rest
  | _ => if s.all isPlain then some s else none

end WarmupGate.Net.Host
