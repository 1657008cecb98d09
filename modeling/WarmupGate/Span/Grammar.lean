import WarmupGate.Span.Reader

/-!
# The grammar of spans

Which texts are spans and what they mean, said without a reader. A text is an optional sign and then
a bare zero or one or more components; a component is a number and the name of a unit right behind
it. A number begins with a digit or a point and no name of a unit has one, so a unit extends to the
next digit, to the next point or to the end.
-/
namespace WarmupGate.Span

/-- The names of the units and their lengths in nanoseconds. -/
inductive IsUnit : List Char → Nat → Prop
  | nano : IsUnit ['n', 's'] 1
  | micro : IsUnit ['u', 's'] 1000
  | microSign : IsUnit ['\u00b5', 's'] 1000
  | microLetter : IsUnit ['\u03bc', 's'] 1000
  | milli : IsUnit ['m', 's'] 1000000
  | second : IsUnit ['s'] 1000000000
  | minute : IsUnit ['m'] 60000000000
  | hour : IsUnit ['h'] 3600000000000

/-- A number as it is written, its digits before the point and its digits behind it. -/
inductive IsNumber : List Char → List Char → List Char → Prop
  | whole {whole : List Char} : Text.Digits whole → whole ≠ [] → IsNumber whole whole []
  | pointed {whole fraction : List Char} : Text.Digits whole → whole ≠ [] →
      Text.Digits fraction → IsNumber (whole ++ '.' :: fraction) whole fraction
  | fraction {fraction : List Char} : Text.Digits fraction → fraction ≠ [] →
      IsNumber ('.' :: fraction) [] fraction

/-- A component, the way it is written, and the nanoseconds that it stands for: the whole units, and
the units of the first eighteen places behind the point, rounded down. -/
inductive Component.Spells : Component → List Char → Nat → Prop
  | intro {number whole fraction unit : List Char} {scale : Nat} :
      IsNumber number whole fraction → IsUnit unit scale →
      Component.Spells ⟨whole, fraction, unit⟩ (number ++ unit)
        (Text.digitsValue whole * scale +
          Text.digitsValue (fraction.take 18) * scale /
            Text.tenPower (fraction.take 18).length)

/-- One or more components one behind the other, the way they are written, and their sum. -/
inductive Spells : List Component → List Char → Nat → Prop
  | last {c : Component} {s : List Char} {n : Nat} : c.Spells s n → Spells [c] s n
  | cons {c : Component} {cs : List Component} {s t : List Char} {n m : Nat} :
      c.Spells s n → Spells cs t m → Spells (c :: cs) (s ++ t) (n + m)

/-- What may stand in front of a span; true for the minus. -/
inductive IsSign : List Char → Bool → Prop
  | none : IsSign [] false
  | plus : IsSign ['+'] false
  | minus : IsSign ['-'] true

/-- The span that a text means. Zero has no negative form. -/
inductive Means : List Char → Signed → Prop
  | zero {sign : List Char} {minus : Bool} : IsSign sign minus →
      Means (sign ++ ['0']) (.positive .zero)
  | sum {sign body : List Char} {minus : Bool} {cs : List Component} {total : Nat} :
      IsSign sign minus → Spells cs body total → total ≤ Word.size 64 - 1 →
      Means (sign ++ body)
        (if minus = true ∧ total ≠ 0 then .negative ⟨total⟩ else .positive ⟨total⟩)

/-- A text is at its end, or goes on with a digit or a point. -/
def AtNumber (rest : List Char) : Prop := ∀ x ∈ rest.head?, startsNumber x = true

/-- The whole units of a component fit into a wide word. -/
def Component.WholeFits (c : Component) : Prop :=
  ∀ scale, IsUnit c.unit scale → Text.digitsValue c.whole * scale < wide

/-- Components from the beginning of a text, if there are any, with a sum that stays within the wide
words. -/
inductive Leads : List Char → Nat → Prop
  | nil : Leads [] 0
  | sum {cs : List Component} {s : List Char} {sum : Nat} :
      Spells cs s sum → sum < wide → Leads s sum

/-- A text in which the components up to a place are added without a fault, and the next one has
whole units that fit into a wide word while its value does not. What follows this component does not
matter, as it is never looked at. -/
inductive Overflows : List Char → Prop
  | intro {sign front text rest : List Char} {minus : Bool} {sum n : Nat} {c : Component} :
      IsSign sign minus → Leads front sum → c.Spells text n → AtNumber rest → c.WholeFits →
      wide ≤ n → Overflows (sign ++ (front ++ (text ++ rest)))

end WarmupGate.Span
