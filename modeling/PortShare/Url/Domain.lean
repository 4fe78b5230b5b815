import PortShare.Text.Composed
import PortShare.Text.Utf8
import PortShare.Url.Folding
import PortShare.Url.Label

/-!
Domain names as they are looked up. Characters that stand for others are replaced by them, some
vanish, and letters and marks are joined. What is left must hold no character that no domain name
has, its labels must be in order, and if one is written from the right they all keep to one side. -/

namespace PortShare.Url

/-- The ASCII characters that may not stand in a domain name. -/
def isForbiddenInDomain (c : Char) : Bool :=
  c.toNat ≤ 0x20 || c.toNat == 0x7F || "%#/:<>?@[\\]^|".toList.contains c

/-- Characters that have no influence on a domain name. -/
def vanishingRanges : Array (Nat × Nat) := #[
  (0xAD, 0xAD), (0x34F, 0x34F), (0x115F, 0x1160), (0x17B4, 0x17B5), (0x180B, 0x180F),
  (0x200B, 0x200B), (0x2060, 0x2064), (0x206A, 0x206F), (0x3164, 0x3164), (0xFE00, 0xFE0F),
  (0xFEFF, 0xFEFF), (0xFFA0, 0xFFA0), (0x1BCA0, 0x1BCA3), (0x1D173, 0x1D17A), (0xE0100, 0xE01EF)]

def vanishes (c : Char) : Bool := Category.inRanges vanishingRanges c.toNat

/-- Characters that could be seen but stand for nothing that a domain name may have in it: a blank,
a forbidden character, or none at all. -/
def misleadingRanges : Array (Nat × Nat) := #[
  (0xA8, 0xA8), (0xAF, 0xAF), (0xB4, 0xB4), (0xB8, 0xB8), (0x2D8, 0x2DD), (0x37A, 0x37A),
  (0x384, 0x385), (0x1FBD, 0x1FBD), (0x1FBF, 0x1FC1), (0x1FCD, 0x1FCF), (0x1FDD, 0x1FDF),
  (0x1FED, 0x1FEE), (0x1FFD, 0x1FFE), (0x2017, 0x2017), (0x2024, 0x2026), (0x203E, 0x203E),
  (0x2047, 0x2049), (0x2100, 0x2101), (0x2105, 0x2106), (0x2488, 0x249B), (0x2A74, 0x2A74),
  (0x2FF0, 0x2FFF), (0x309B, 0x309C), (0x31EF, 0x31EF), (0x33C2, 0x33C2), (0x33C7, 0x33C7),
  (0x33D8, 0x33D8), (0xFC5E, 0xFC63), (0xFDFA, 0xFDFB), (0xFE12, 0xFE13), (0xFE16, 0xFE16),
  (0xFE19, 0xFE19), (0xFE30, 0xFE30), (0xFE47, 0xFE4C), (0xFE52, 0xFE52), (0xFE55, 0xFE56),
  (0xFE5F, 0xFE5F), (0xFE68, 0xFE68), (0xFE6A, 0xFE6B), (0xFE70, 0xFE70), (0xFE72, 0xFE72),
  (0xFE74, 0xFE74), (0xFE76, 0xFE76), (0xFE78, 0xFE78), (0xFE7A, 0xFE7A), (0xFE7C, 0xFE7C),
  (0xFE7E, 0xFE7E), (0xFFE3, 0xFFE3), (0xFFFC, 0xFFFD), (0x1F100, 0x1F100)]

/-- Characters that are younger than the classes of characters. -/
def youngRanges : Array (Nat × Nat) := #[
  (0x530, 0x530), (0x558, 0x558), (0x208F, 0x208F), (0x209D, 0x209F), (0x20C2, 0x20C4),
  (0x2E5E, 0x2E60), (0xA7DD, 0xA7DD), (0x3D000, 0x3FC3F)]

/-- May the character, which is not ASCII and stands for itself, not stand in a domain name? -/
def isRefused (c : Char) : Bool :=
  Category.inRanges misleadingRanges c.toNat
    || (Category.isHidden c && !Category.isMark c && !Label.isJoiner c
      && !Category.inRanges youngRanges c.toNat)

/-- The characters that one stands for, if it may stand in a domain name. -/
def meaning? (c : Char) : Option (List Char) :=
  if c.toNat < 0x80 then some [c.toLower]
  else if vanishes c then some []
  else
    match folding? c with
    | some cs => some cs
    | none => if isRefused c then none else some [c]

/-- The form of a text in a domain name by which it is known. -/
def canonical? (text : List Char) : Option (List Char) :=
  match text.mapM meaning? with
  | none => none
  | some parts =>
    let text := Composed.normal parts.flatten
    if text.any isForbiddenInDomain then none else some text

/-- The labels of a domain name, if it is one. -/
def labels? (text : List Char) : Option (List Label) :=
  match canonical? text with
  | none => none
  | some text =>
    match (text.splitOn '.').mapM (Label.read? fun cs => canonical? cs == some cs) with
    | none => none
    | some labels =>
      let fromRight := labels.any fun l => l.letters.any Label.isFromRight
      if fromRight && !labels.all (fun l => Label.isOneWay l.letters) then none else some labels

/-- The form in which a domain name is looked up, if it is one. -/
def domainName? (bytes : Bytes) : Option (List Char) :=
  match Utf8.decode? bytes with
  | none => none
  | some text => (labels? text).map fun labels => ['.'].intercalate (labels.map Label.ascii)

end PortShare.Url
