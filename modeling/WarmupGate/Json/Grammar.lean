import WarmupGate.Json
import WarmupGate.Text.Numeral

/-!
# Which texts are JSON

The grammar of JSON texts, said of plain texts and without a scanner, and which texts tell a value
that is made of records: the members of an object may come in any order and have others among them,
and one that is null may be left out. A character of a string may be spelled in each way that the
format has. A string that is told, and the name of a member that is, consists of whole characters;
where only the format counts, a string may also name half of a surrogate pair.
-/
namespace WarmupGate.Json

def Gap (s : List Char) : Prop := ∀ c ∈ s, c = ' ' ∨ c = '\n' ∨ c = '\t' ∨ c = '\r'

instance (s : List Char) : Decidable (Gap s) :=
  inferInstanceAs (Decidable (∀ c ∈ s, c = ' ' ∨ c = '\n' ∨ c = '\t' ∨ c = '\r'))

/-- Four hexadecimal digits and their value. -/
def HexWord (s : List Char) (n : Nat) : Prop := s.length = 4 ∧ Text.hexValue? s = some n

instance (s : List Char) (n : Nat) : Decidable (HexWord s n) :=
  inferInstanceAs (Decidable (_ ∧ _))

/-- The letters that stand for a character behind a backslash, and these characters. -/
def shorthands : List (Char × Char) :=
  [('"', '"'), ('\\', '\\'), ('/', '/'), ('b', '\x08'), ('f', '\x0c'), ('n', '\n'), ('r', '\r'),
    ('t', '\t')]

/-- A character that may stand in a string as it is. -/
def IsPlain (c : Char) : Prop := 0x20 ≤ c.toNat ∧ c ≠ '"' ∧ c ≠ '\\'

instance (c : Char) : Decidable (IsPlain c) := inferInstanceAs (Decidable (_ ∧ _))

/-- A character by its code, behind a backslash and the letter u. One beyond 16 bits takes two
codes, each of which is half of a surrogate pair. -/
inductive Coded : Char → List Char → Prop
  | whole {h : List Char} {n : Nat} : HexWord h n → n < 0xd800 ∨ 0xdfff < n →
      Coded (Char.ofNat n) h
  | halves {h l : List Char} {m n : Nat} : HexWord h m → HexWord l n →
      0xd800 ≤ m ∧ m ≤ 0xdbff → 0xdc00 ≤ n ∧ n ≤ 0xdfff →
      Coded (Char.ofNat ((m - 0xd800) * 0x400 + (n - 0xdc00) + 0x10000)) (h ++ '\\' :: 'u' :: l)

inductive Escape : Char → List Char → Prop
  | short {letter c : Char} : (letter, c) ∈ shorthands → Escape c [letter]
  | code {c : Char} {s : List Char} : Coded c s → Escape c ('u' :: s)

/-- The characters of a text and how they are spelled between quotes. -/
inductive Spells : List Char → List Char → Prop
  | nil : Spells [] []
  | plain {c : Char} {cs s : List Char} : IsPlain c → Spells cs s → Spells (c :: cs) (c :: s)
  | escaped {c : Char} {e cs s : List Char} : Escape c e → Spells cs s →
      Spells (c :: cs) ('\\' :: e ++ s)

/-- What the format allows between quotes. -/
inductive IsBody : List Char → Prop
  | nil : IsBody []
  | plain {c : Char} {s : List Char} : IsPlain c → IsBody s → IsBody (c :: s)
  | short {letter c : Char} {s : List Char} : (letter, c) ∈ shorthands → IsBody s →
      IsBody ('\\' :: letter :: s)
  | code {h s : List Char} {n : Nat} : HexWord h n → IsBody s → IsBody ('\\' :: 'u' :: h ++ s)

def quoted (body : List Char) : List Char := '"' :: body ++ ['"']

inductive IsFraction : List Char → Prop
  | none : IsFraction []
  | some {digits : List Char} : digits ≠ [] → Text.Digits digits → IsFraction ('.' :: digits)

inductive IsExponent : List Char → Prop
  | none : IsExponent []
  | some {e : Char} {sign digits : List Char} : e = 'e' ∨ e = 'E' →
      sign = [] ∨ sign = ['+'] ∨ sign = ['-'] → digits ≠ [] → Text.Digits digits →
      IsExponent (e :: sign ++ digits)

inductive IsNumber : List Char → Prop
  | mk {sign whole fraction exponent : List Char} : sign = [] ∨ sign = ['-'] →
      Text.IsNumeral whole → IsFraction fraction → IsExponent exponent →
      IsNumber (sign ++ whole ++ fraction ++ exponent)

/-- Parts between two brackets, with commas between them. -/
inductive Enclosed (left right : Char) : List (List Char) → List Char → Prop
  | none {gap : List Char} : Gap gap → Enclosed left right [] (left :: gap ++ [right])
  | some {parts : List (List Char)} : parts ≠ [] →
      Enclosed left right parts (left :: [','].intercalate parts ++ [right])

structure Padded where
  before : List Char
  text : List Char
  after : List Char
  gap_before : Gap before
  gap_after : Gap after

def Padded.chars (p : Padded) : List Char := p.before ++ p.text ++ p.after

/-- A member as it is written: a name in quotes, a colon and a value. -/
structure Slot where
  before : List Char
  body : List Char
  between : List Char
  value : Padded
  gap_before : Gap before
  gap_between : Gap between

def Slot.chars (s : Slot) : List Char :=
  s.before ++ quoted s.body ++ s.between ++ ':' :: s.value.chars

inductive IsValue : List Char → Prop
  | null : IsValue ['n', 'u', 'l', 'l']
  | isTrue : IsValue ['t', 'r', 'u', 'e']
  | isFalse : IsValue ['f', 'a', 'l', 's', 'e']
  | number {s : List Char} : IsNumber s → IsValue s
  | string {body : List Char} : IsBody body → IsValue (quoted body)
  | array {items : List Padded} {s : List Char} : Enclosed '[' ']' (items.map Padded.chars) s →
      (∀ i ∈ items, IsValue i.text) → IsValue s
  | object {slots : List Slot} {s : List Char} :
      Enclosed '\x7b' '\x7d' (slots.map Slot.chars) s → (∀ m ∈ slots, IsBody m.body) →
      (∀ m ∈ slots, IsValue m.value.text) → IsValue s

/-- The text of an object with these members, whose names need not consist of whole characters. -/
structure HasSlots (slots : List Slot) (s : List Char) : Prop where
  enclosed : Enclosed '\x7b' '\x7d' (slots.map Slot.chars) s
  bodies : ∀ m ∈ slots, IsBody m.body
  values : ∀ m ∈ slots, IsValue m.value.text

/-- A member whose name consists of whole characters. -/
structure Entry extends Slot where
  name : String
  spelled : Spells name.toList body

/-- The text of an object with these entries. -/
structure IsObject (entries : List Entry) (s : List Char) : Prop where
  enclosed : Enclosed '\x7b' '\x7d' (entries.map fun e => e.chars) s
  values : ∀ e ∈ entries, IsValue e.value.text

/-- The texts that tell a value. The named members of an object stand in any order, each of them
once, among any members with other names; one that is null may be left out. -/
inductive Tells : Json → List Char → Prop
  | null : Tells .null ['n', 'u', 'l', 'l']
  | isTrue : Tells (.bool true) ['t', 'r', 'u', 'e']
  | isFalse : Tells (.bool false) ['f', 'a', 'l', 's', 'e']
  | number {n : Int} {places : Nat} : Tells (.number n places) (Text.pointNumeral n places)
  | string {value : String} {body : List Char} : Spells value.toList body →
      Tells (.string value) (quoted body)
  | object {members : List (String × Json)} {entries : List Entry} {s : List Char} :
      IsObject entries s →
      (∀ m ∈ members, (entries.map Entry.name).count m.1 ≤ 1) →
      (∀ m ∈ members, m.1 ∉ entries.map Entry.name → m.2 = .null) →
      (∀ e ∈ entries, ∀ v, (e.name, v) ∈ members → Tells v e.value.text) →
      Tells (.object members) s

/-- An object lacks a member that it cannot do without, or has a known one twice. -/
inductive Flawed (required known : List String) (entries : List Entry) : Prop
  | missing {name : String} : name ∈ required → name ∉ entries.map Entry.name →
      Flawed required known entries
  | doubled {name : String} : name ∈ known → 2 ≤ (entries.map Entry.name).count name →
      Flawed required known entries

/-- An object that is no record: it is flawed, or a member's name does not consist of whole
characters. -/
inductive Broken (required known : List String) (slots : List Slot) : Prop
  | flawed {entries : List Entry} : entries.map Entry.toSlot = slots →
      Flawed required known entries → Broken required known slots
  | unnamed {m : Slot} : m ∈ slots → (∀ cs, ¬ Spells cs m.body) → Broken required known slots

end WarmupGate.Json
