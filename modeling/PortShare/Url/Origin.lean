import PortShare.Url.Read

/-! Hosts and origins as they are written: the origin of a URL is its scheme, host and port. -/

namespace PortShare.Url

namespace Host

/-- The bytes of a number, with points between. -/
def numberText (n : Nat) : List Char :=
  ['.'].intercalate ([16777216, 65536, 256, 1].map fun unit => Numeral.digits 10 (n / unit % 256))

/-- Where the longest run of zeros begins, and how long it is; of two the first counts. -/
def longestGap (groups : List Nat) : Nat × Nat :=
  (List.range groups.length).foldl
    (fun best i =>
      let size := ((groups.drop i).takeWhile (· == 0)).length
      if best.2 < size then (i, size) else best) (0, 0)

/-- The groups with colons between; two colons stand for the longest run of zeros. -/
def groupsText (groups : List Nat) : List Char :=
  let joined (gs : List Nat) : List Char := [':'].intercalate (gs.map (Numeral.digits 16))
  let (start, size) := longestGap groups
  if size < 2 then joined groups
  else joined (groups.take start) ++ [':', ':'] ++ joined (groups.drop (start + size))

def text : Host → List Char
  | .name cs | .unread cs => cs
  | .number n => numberText n
  | .groups gs => '[' :: (groupsText gs ++ [']'])

end Host

/-- The port that need not be written. -/
def defaultPort? (scheme : List Char) : Option Nat :=
  if scheme = "http".toList then some 80
  else if scheme = "https".toList then some 443
  else none

/-- The host and the port, as far as it must be written. -/
def authority (scheme : List Char) (host : Host) (port : Option Nat) : List Char :=
  let port := port.filter fun p => defaultPort? scheme != some p
  host.text ++ match port with
    | some p => ':' :: Numeral.digits 10 p
    | none => []

def origin (scheme : List Char) (host : Host) (port : Option Nat) : List Char :=
  scheme ++ [':', '/', '/'] ++ authority scheme host port

end PortShare.Url
