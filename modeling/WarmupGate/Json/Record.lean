import WarmupGate.Json.Printer
import WarmupGate.Json.Skip

/-!
# Reading records

A record has named members in a fixed order. It is written as an object, whose members come in any
order and may be accompanied by unknown ones, or as a list of all members in their order. A draft
collects the members that were read; what is missing in the end is for the record to decide. The
text is read from left to right, and the first thing that is wrong counts.

Records are described without these readers: a library for the format does the rest. What is asked
of it is listed here, and what it promises is a matter of the theory. The library at hand is the one
that scans.
-/
namespace WarmupGate.Json

/-- A member of a record with a draft of type `δ`. -/
structure Member (δ : Type) where
  name : String
  /-- The draft has this member already. -/
  filled : δ → Bool
  /-- Reads the member's value into a draft. -/
  read : δ → Reader δ

/-- What is wrong with a value that is none of the asked kind. A simple value is read to its end
first, since it may be broken. -/
def wrongKind (s : List Char) : Fault :=
  let behind {α : Type} : Except Fault α → Fault
    | .error f => f
    | .ok _ => .unsuitable
  match s with
  | [] => .ended
  | 'n' :: s => behind (scanWord ['u', 'l', 'l'] s)
  | 't' :: s => behind (scanWord ['r', 'u', 'e'] s)
  | 'f' :: s => behind (scanWord ['a', 'l', 's', 'e'] s)
  | '"' :: s => behind (scanString s)
  | '[' :: _ => .unsuitable
  | '\x7b' :: _ => .unsuitable
  | c :: s =>
    if c = '-' ∨ Text.isDigit c then
      match scanNumeral (c :: s) with
      | .error f => f
      | .ok (n, _) => if n.excessive then .malformed else .unsuitable
    else .malformed

def readString : Reader String := fun s =>
  match skipGap s with
  | '"' :: s => (scanString s).map fun p => (String.ofList p.1, p.2)
  | s => .error (wrongKind s)

def readBool : Reader Bool := fun s =>
  match skipGap s with
  | 't' :: s => (scanWord ['r', 'u', 'e'] s).map (true, ·)
  | 'f' :: s => (scanWord ['a', 'l', 's', 'e'] s).map (false, ·)
  | s => .error (wrongKind s)

/-- A natural number below a limit, written without point and exponent. -/
def readNat (limit : Nat) : Reader Nat := fun s =>
  match skipGap s with
  | c :: s =>
    if c = '-' ∨ Text.isDigit c then
      match scanNumeral (c :: s) with
      | .error f => .error f
      | .ok (n, rest) =>
        if n.excessive then .error .malformed
        else if n.plain && !n.negative && decide (Text.digitsValue n.whole < limit) then
          .ok (Text.digitsValue n.whole, rest)
        else .error .unsuitable
    else .error (wrongKind (c :: s))
  | [] => .error .ended

def readOption {α : Type} (read : Reader α) : Reader (Option α) := fun s =>
  match skipGap s with
  | 'n' :: s => (scanWord ['u', 'l', 'l'] s).map (none, ·)
  | s => (read s).map fun p => (some p.1, p.2)

/-- Reads a value and puts it into a draft. -/
def into {δ α : Type} (read : Reader α) (put : δ → α → δ) (d : δ) : Reader δ := fun s =>
  (read s).map fun p => (put d p.1, p.2)

section

variable {δ : Type}

/-- The name of the next member; none at the end of the object. -/
def readName (first : Bool) (s : List Char) : Except Fault (Option (List Char) × List Char) :=
  match skipGap s with
  | [] => .error .ended
  | '\x7d' :: s => .ok (none, s)
  | '"' :: s =>
    if first then (scanString s).map fun p => (some p.1, p.2) else .error .malformed
  | ',' :: s =>
    if first then .error .malformed
    else
      match skipGap s with
      | [] => .error .ended
      | '"' :: s => (scanString s).map fun p => (some p.1, p.2)
      | _ => .error .malformed
  | _ => .error .malformed

/-- Reads members into a draft up to the end of the object; each takes one unit of fuel. A member
that is there already is refused before its value is looked at. -/
def readMembers (members : List (Member δ)) : Nat → Bool → δ → Reader δ
  | 0, _, _, _ => .error .ended
  | fuel + 1, first, d, s => do
    match ← readName first s with
    | (none, s) => pure (d, s)
    | (some name, s) =>
      match members.find? (fun m => m.name.toList == name) with
      | none =>
        let s ← skipColon s
        let s ← skipValue s
        readMembers members fuel false d s
      | some m =>
        if m.filled d then .error .unsuitable
        else
          let s ← skipColon s
          let (d, s) ← m.read d s
          readMembers members fuel false d s

/-- Where the next item of a list starts. A list that ends here is too short. -/
def startItem (first : Bool) (s : List Char) : Except Fault (List Char) :=
  match skipGap s with
  | [] => .error .ended
  | ']' :: _ => .error .unsuitable
  | c :: s =>
    if first then .ok (c :: s)
    else if c = ',' then
      match skipGap s with
      | [] => .error .ended
      | ']' :: _ => .error .malformed
      | s => .ok s
    else .error .malformed

/-- Reads all members in their order and the end of the list. -/
def readItems : List (Member δ) → Bool → δ → Reader δ
  | [], _, d, s =>
    match skipGap s with
    | [] => .error .ended
    | ']' :: s => .ok (d, s)
    | _ => .error .malformed
  | m :: ms, first, d, s => do
    let s ← startItem first s
    let (d, s) ← m.read d s
    readItems ms false d s

/-- The record that a draft makes. It has to hold what the record cannot do without. -/
def finished {σ : Type} (finish : δ → Option σ) (p : δ × List Char) :
    Except Fault (σ × List Char) :=
  match finish p.1 with
  | some r => .ok (r, p.2)
  | none => .error .unsuitable

/-- Reads a record from an object or a list. -/
def readRecord {σ : Type} (members : List (Member δ)) (blank : δ) (finish : δ → Option σ) :
    Reader σ := fun s =>
  match skipGap s with
  | '\x7b' :: s => (readMembers members (s.length + 1) true blank s).bind (finished finish)
  | '[' :: s => (readItems members true blank s).bind (finished finish)
  | s => .error (wrongKind s)

/-- Reads a whole text; only blanks may follow the value. -/
def readAll {α : Type} (read : Reader α) (s : List Char) : Except Fault α :=
  match read s with
  | .error f => .error f
  | .ok (a, rest) => if skipGap rest = [] then .ok a else .error .malformed

end

structure Library where
  string : Reader String
  bool : Reader Bool
  /-- A natural number below a limit. -/
  natural : Nat → Reader Nat
  /-- A value or null. -/
  option {α : Type} : Reader α → Reader (Option α)
  /-- A record with these members, which are collected in a draft. -/
  record {δ α : Type} : List (Member δ) → δ → (δ → Option α) → Reader α
  /-- A text that holds one value and nothing else. -/
  whole {α : Type} : Reader α → List Char → Except Fault α
  text : Json → String

def Library.scanning : Library where
  string := readString
  bool := readBool
  natural := readNat
  option := readOption
  record := readRecord
  whole := readAll
  text := Json.text

end WarmupGate.Json
