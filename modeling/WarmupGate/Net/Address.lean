import WarmupGate.Text.Numeral

/-!
# Internet addresses

Addresses of both families and their textual forms. The dotted form has four decimal numbers without
leading zeros. The colon form has eight groups of hexadecimal digits, of which one run of zeros may
be left out, and may end in a dotted address.
-/
namespace WarmupGate.Net

inductive Address where
  /-- Four bytes, as one number. -/
  | v4 (value : Nat)
  /-- Eight groups of sixteen bits. -/
  | v6 (groups : List Nat)
  deriving DecidableEq, Repr

/-- Cuts a text at the first character of a kind, which stays with the second part. -/
def cutAt (p : Char → Bool) (s : List Char) : List Char × List Char :=
  (s.takeWhile (!p ·), s.dropWhile (!p ·))

/-- The parts of a text between the occurrences of a separator. -/
def splitOn (sep : Char) : List Char → List (List Char)
  | [] => [[]]
  | c :: rest =>
    if c = sep then [] :: splitOn sep rest
    else
      match splitOn sep rest with
      | [] => [[c]]
      | part :: parts => (c :: part) :: parts

namespace Address

/-- One of the four numbers of a dotted address. -/
def readByte? (s : List Char) : Option Nat :=
  if s.isEmpty || 3 < s.length || !s.all Text.isDigit then none
  else if 1 < s.length && s.head? == some '0' then none
  else
    let n := Text.digitsValue s
    if n < 256 then some n else none

def readV4? (s : List Char) : Option Nat :=
  match (splitOn '.' s).map readByte? with
  | [some a, some b, some c, some d] => some (((a * 256 + b) * 256 + c) * 256 + d)
  | _ => none

/-- One group of a colon address; the last one may be a dotted address and counts for two. -/
def readGroup? (isLast : Bool) (s : List Char) : Option (List Nat) :=
  if isLast && s.contains '.' then (readV4? s).map (fun n => [n / 65536, n % 65536])
  else if s.isEmpty || 4 < s.length then none
  else (Text.hexValue? s).map ([·])

def readGroups? : List (List Char) → Option (List Nat)
  | [] => some []
  | [s] => readGroup? true s
  | s :: rest => do pure ((← readGroup? false s) ++ (← readGroups? rest))

/-- The two sides of the first double colon. -/
def splitGap? : List Char → Option (List Char × List Char)
  | ':' :: ':' :: rest => some ([], rest)
  | c :: rest => (splitGap? rest).map (fun (before, after) => (c :: before, after))
  | [] => none

/-- The groups on one side of a gap; nothing at all stands for no groups. -/
def readSide? (isLast : Bool) (s : List Char) : Option (List Nat) :=
  if s.isEmpty then some []
  else if isLast then readGroups? (splitOn ':' s)
  else
    ((splitOn ':' s).mapM (readGroup? false)).map List.flatten

def readV6? (s : List Char) : Option (List Nat) :=
  match splitGap? s with
  | some (before, after) =>
    match readSide? false before, readSide? true after with
    | some high, some low =>
      if high.length + low.length < 8 then
        some (high ++ List.replicate (8 - high.length - low.length) 0 ++ low)
      else none
    | _, _ => none
  | none =>
    match readGroups? (splitOn ':' s) with
    | some groups => if groups.length = 8 then some groups else none
    | none => none

/-- An address in one of its textual forms, without a zone. -/
def read? (s : List Char) : Option Address :=
  match readV4? s with
  | some n => some (.v4 n)
  | none => (readV6? s).map .v6

/-- The address that stands for every interface. -/
def unspecified : Address := .v4 0

def v4Text (n : Nat) : List Char :=
  ['.'].intercalate [Text.numeral (n / 16777216 % 256), Text.numeral (n / 65536 % 256),
    Text.numeral (n / 256 % 256), Text.numeral (n % 256)]

def zeroRun (groups : List Nat) : Nat := (groups.takeWhile (· == 0)).length

/-- Start and length of the longest run of at least two zero groups, the first of several. -/
def longestGap (groups : List Nat) : Nat × Nat :=
  (List.range groups.length).foldl
    (fun best i =>
      let run := zeroRun (groups.drop i)
      if best.2 < run && 1 < run then (i, run) else best)
    (0, 0)

/-- The shortest form: groups in lower case, the longest gap left out. -/
def v6Text (groups : List Nat) : List Char :=
  let (start, run) := longestGap groups
  if run = 0 then [':'].intercalate (groups.map Text.hexNumeral)
  else
    [':'].intercalate ((groups.take start).map Text.hexNumeral) ++ [':', ':'] ++
      [':'].intercalate ((groups.drop (start + run)).map Text.hexNumeral)

end Address

structure Socket where
  address : Address
  port : UInt16
  deriving DecidableEq, Repr

end WarmupGate.Net
