import WarmupGate.Net.HostName.Series
import WarmupGate.Net.HostName.Spelling
import WarmupGate.Text.Canonical
import WarmupGate.Text.Unassigned

/-!
# Folding of host names

Spellings that mean the same host fold into one: capital letters become small, letters of special
styles become plain, ideographic full stops become points, characters that only affect the display
fall away, and what is left is put into composed form. Some characters may not stand in a host name
at all; those that would fold into a text with a blank are among them.
-/
namespace WarmupGate.Net.HostName

/-- The characters, besides code points without one, that no host name can hold. -/
def refusedRanges : Text.Ranges :=
  #[(0x80, 0xa0), (0xa8, 0xa8), (0xaf, 0xaf), (0xb4, 0xb4), (0xb8, 0xb8), (0x2d8, 0x2dd),
    (0x37a, 0x37a), (0x384, 0x385), (0x600, 0x605), (0x61c, 0x61c), (0x6dd, 0x6dd), (0x70f, 0x70f),
    (0x890, 0x891), (0x8e2, 0x8e2), (0x1680, 0x1680), (0x1fbd, 0x1fbd), (0x1fbf, 0x1fc1),
    (0x1fcd, 0x1fcf), (0x1fdd, 0x1fdf), (0x1fed, 0x1fee), (0x1ffd, 0x200a), (0x200e, 0x200f),
    (0x2017, 0x2017), (0x2024, 0x2026), (0x2028, 0x202f), (0x203e, 0x203e), (0x205f, 0x205f),
    (0x2066, 0x2069), (0x2488, 0x249b), (0x2ff0, 0x3000), (0x309b, 0x309c), (0x31ef, 0x31ef),
    (0x33c2, 0x33c2), (0x33c7, 0x33c7), (0x33d8, 0x33d8), (0xfc5e, 0xfc63), (0xfdfa, 0xfdfb),
    (0xfe12, 0xfe12), (0xfe19, 0xfe19), (0xfe30, 0xfe30), (0xfe49, 0xfe4c), (0xfe52, 0xfe52),
    (0xfe70, 0xfe70), (0xfe72, 0xfe72), (0xfe74, 0xfe76), (0xfe78, 0xfe78), (0xfe7a, 0xfe7a),
    (0xfe7c, 0xfe7c), (0xfe7e, 0xfe7e), (0xffe3, 0xffe3), (0xfff9, 0xfffd), (0x110bd, 0x110bd),
    (0x110cd, 0x110cd), (0x13430, 0x1343f), (0x1f100, 0x1f100), (0xe0001, 0xe007f)]

def ignoredRanges : Text.Ranges :=
  #[(0xad, 0xad), (0x34f, 0x34f), (0x115f, 0x1160), (0x17b4, 0x17b5), (0x180b, 0x180f),
    (0x200b, 0x200b), (0x2060, 0x2064), (0x206a, 0x206f), (0x3164, 0x3164), (0xfe00, 0xfe0f),
    (0xfeff, 0xfeff), (0xffa0, 0xffa0), (0x1bca0, 0x1bca3), (0x1d173, 0x1d17a), (0xe0100, 0xe01ef)]

/-- What a character folds into; none if it is refused. -/
def foldChar? (c : Char) : Option (List Char) :=
  if c.toNat < 0x80 then some [c.toLower]
  else if Text.isUnassigned c || refusedRanges.has c then none
  else if ignoredRanges.has c then some []
  else
    match series.findSome? (·.target? c.toNat) with
    | some n => some [Char.ofNat n]
    | none => some ((spelling? c).getD [c])

/-- The folded form of a name; none if it holds a character that is refused. -/
def fold? (s : List Char) : Option (List Char) :=
  (s.mapM foldChar?).map fun parts => Text.compose parts.flatten

end WarmupGate.Net.HostName
