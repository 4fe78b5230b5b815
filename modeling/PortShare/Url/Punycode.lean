import PortShare.Text.Numeral

/-!
The ASCII form of a label with other letters: its ASCII characters, a hyphen if there are any, and
behind it where the other characters go, each as a number in digits of a base that adapts. -/

namespace PortShare.Url

namespace Punycode

/-- The number of a letter or digit; letters come first. -/
def digitValue? (c : Char) : Option Nat :=
  if c.isAlpha then some (c.toLower.toNat - 97)
  else if c.isDigit then some (c.toNat - 22)
  else none

/-- Divides a distance until it is small, and counts the divisions. -/
def settle (delta k : Nat) : Nat :=
  if 455 < delta then settle (delta / 35) (k + 36) else k + 36 * delta / (delta + 38)
termination_by delta
decreasing_by omega

/-- The bias for the next number, after one of `delta` that made the label `size` long. -/
def adapt (delta size : Nat) (first : Bool) : Nat :=
  let delta := if first then delta / 700 else delta / 2
  settle (delta + delta / size) 0

/-- The least digit that does not end a number at this place. -/
def threshold (place bias : Nat) : Nat := min 26 (max 1 (place - bias))

theorem threshold_pos (place bias : Nat) : 0 < threshold place bias := by
  unfold threshold
  omega

/-- What has been decoded, and the number that is being read. -/
structure State where
  label : List Char
  code : Nat := 128
  /-- Where the last character has been put. -/
  last : Nat := 0
  bias : Nat := 72
  sum : Nat := 0
  weight : Nat := 1
  place : Nat := 36

/-- Puts the character in whose number has been read. -/
def State.insert (s : State) : Option State :=
  let size := s.label.length + 1
  let position := s.last + s.sum
  let code := s.code + position / size
  if code.isValidChar then
    some {
      label := s.label.insertIdx (position % size) (Char.ofNat code)
      code
      last := position % size + 1
      bias := adapt s.sum size (s.last == 0) }
  else none

/-- Numbers and weights stay below this. -/
def bound : Nat := 4294967296

def State.take (s : State) (digit : Nat) : Option State :=
  let t := threshold s.place s.bias
  let s := { s with sum := s.sum + digit * s.weight }
  if bound ≤ s.sum then none
  else if digit < t then s.insert
  else if bound ≤ s.weight * (36 - t) then none
  else some { s with weight := s.weight * (36 - t), place := s.place + 36 }

def digitChar (n : Nat) : Char := Char.ofNat (if n < 26 then 97 + n else 22 + n)

/-- The digits of a number. -/
def digits (bias place n : Nat) : List Char :=
  let t := threshold place bias
  if n < t then [digitChar n]
  else digitChar (t + (n - t) % (36 - t)) :: digits bias (place + 36) ((n - t) / (36 - t))
termination_by n
decreasing_by
  have := threshold_pos place bias
  have := Nat.div_le_self (n - threshold place bias) (36 - threshold place bias)
  omega

/-- What has been written, and the way to the next character that is to be written. -/
structure Progress where
  written : List Char
  delta : Nat := 0
  bias : Nat := 72
  /-- How many characters of the label have been written. -/
  done : Nat

/-- Goes past a character of the label on the way through it with `code`, which is written. -/
def Progress.pass (code plain : Nat) (p : Progress) (c : Char) : Progress :=
  if c.toNat < code then { p with delta := p.delta + 1 }
  else if c.toNat = code then {
    written := p.written ++ digits p.bias 36 p.delta
    delta := 0
    bias := adapt p.delta (p.done + 1) (p.done == plain)
    done := p.done + 1 }
  else p

/-- Writes the characters with the given codes, which ascend; `next` is the least that has not been
looked for. -/
def writeCodes (label : List Char) (plain : Nat) : List Nat → Nat → Progress → List Char
  | [], _, p => p.written
  | code :: codes, next, p =>
    let p := { p with delta := p.delta + (code - next) * (p.done + 1) }
    let p := label.foldl (Progress.pass code plain) p
    writeCodes label plain codes (code + 1) { p with delta := p.delta + 1 }

end Punycode

open Punycode in
/-- The label that is written, if the last number is complete. -/
def punycodeDecode (cs : List Char) : Option (List Char) :=
  let digits := (cs.reverse.takeWhile (· != '-')).reverse
  let plain := (cs.take (cs.length - digits.length)).dropLast
  let text := if plain.isEmpty then cs else digits
  match (text.mapM digitValue?).bind fun ds => ds.foldlM State.take { label := plain } with
  | some s => if s.place = 36 then some s.label else none
  | none => none

open Punycode in
/-- The ASCII form of a label. -/
def punycodeEncode (label : List Char) : List Char :=
  let plain := label.filter fun c => c.toNat < 128
  let others := (label.filter fun c => 128 ≤ c.toNat).map Char.toNat
  let codes := (others.mergeSort (· ≤ ·)).eraseDups
  let start := if plain.isEmpty then [] else plain ++ ['-']
  writeCodes label plain.length codes 128 { written := start, done := plain.length }

end PortShare.Url
