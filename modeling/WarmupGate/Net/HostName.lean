import WarmupGate.Net.Address
import WarmupGate.Net.HostName.Folding
import WarmupGate.Text.Direction
import WarmupGate.Text.Joining
import WarmupGate.Text.Punycode

/-!
# Host names

A host name consists of labels with points between them. It is looked up in ASCII: labels with other
characters are folded and then encoded behind a marker. A label that comes encoded has to stand for
a text outside ASCII that is folded already, so that every name has one form. No label begins with a
mark, joiners have to have an effect, and where something runs to the left every label has to agree
with the rule on directions.
-/
namespace WarmupGate.Net.HostName

/-- Stands in front of labels that are encoded. -/
def marker : List Char := "xn--".toList

def isAscii (s : List Char) : Bool := s.all Text.Punycode.isBasic

def decodeLabel? (label : List Char) : Option (List Char) :=
  if marker.isPrefixOf label then
    match Text.Punycode.decode? (label.drop marker.length) with
    | some text =>
      if isAscii text || marker.isPrefixOf text || fold? text != some text then none
      else some text
    | none => none
  else some label

def encodeLabel (label : List Char) : List Char :=
  if isAscii label then label else marker ++ Text.Punycode.encode label

def isLabel (label : List Char) : Bool :=
  !label.head?.any Text.isMark && Text.joinersFit [] label

/-- The directions of the labels of a name agree, if any of them matters. -/
def directionsAgree (labels : List (List Char)) : Bool :=
  !labels.any Text.Direction.anyLeftward ||
    labels.all fun label => Text.Direction.agree (label.map Text.Direction.ofChar)

/-- The form in which a name is looked up; none if it is no name. -/
def toAscii? (name : List Char) : Option (List Char) := do
  let folded ← fold? name
  let labels ← (splitOn '.' folded).mapM decodeLabel?
  if labels.all isLabel && directionsAgree labels then
    some (['.'].intercalate (labels.map encodeLabel))
  else none

end WarmupGate.Net.HostName
