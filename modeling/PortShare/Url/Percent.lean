import PortShare.Text.Numeral
import PortShare.Text.Utf8

/-! Percent-encoding: a character that may not stand in a part of a URL is written as its UTF-8
bytes, each as a percent sign and two hexadecimal digits. -/

namespace PortShare.Url

def hexCapital (n : Nat) : Char := (Numeral.digit n).toUpper

def percentByte (b : UInt8) : List Char :=
  ['%', hexCapital (b.toNat / 16), hexCapital (b.toNat % 16)]

/-- Controls and all that is not ASCII are encoded in every part of a URL. -/
def isPlain (c : Char) : Bool := 0x20 ≤ c.toNat && c.toNat < 0x7F

/-- Encodes what is not plain and what is `reserved`. -/
def percentEncode (reserved : List Char) (cs : List Char) : List Char :=
  cs.flatMap fun c =>
    if isPlain c && !reserved.contains c then [c]
    else (Utf8.encodeChar c).flatMap percentByte

/-- The bytes that are written; a percent sign without two digits stands for itself. -/
def percentDecode : List Char → Bytes
  | '%' :: a :: b :: cs =>
    if Numeral.isDigitIn 16 a && Numeral.isDigitIn 16 b then
      (Numeral.digitValue a * 16 + Numeral.digitValue b).toUInt8 :: percentDecode cs
    else 37 :: percentDecode (a :: b :: cs)
  | c :: cs => Utf8.encodeChar c ++ percentDecode cs
  | [] => []

def fragmentReserved : List Char := [' ', '"', '<', '>', '\x60']

def queryReserved : List Char := [' ', '"', '#', '<', '>']

def pathReserved : List Char := fragmentReserved ++ ['#', '?', '\x7b', '\x7d']

/-- In a segment that is added to a path. -/
def segmentReserved : List Char := pathReserved ++ ['/', '%', '\\']

end PortShare.Url
