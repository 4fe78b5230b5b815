/-!
Numerals: a natural number as digits to a base, and digits as a number. Digits above nine
are letters, small ones when written and either kind when read. -/

namespace PortShare.Numeral

def digit (d : Nat) : Char := Char.ofNat (if d < 10 then 48 + d else 87 + d)

/-- Most significant digit first; no leading zeros, and one digit for zero. -/
def digits (base n : Nat) : List Char :=
  if h : 1 < base ∧ base ≤ n then
    have : n / base < n := Nat.div_lt_self (by omega) h.1
    digits base (n / base) ++ [digit (n % base)]
  else [digit n]
termination_by n

def decimal (n : Nat) : String := String.ofList (digits 10 n)

def hex (n : Nat) : String := String.ofList (digits 16 n)

def digitValue (c : Char) : Nat :=
  if c.isDigit then c.toNat - 48
  else if 'a' ≤ c && c ≤ 'z' then c.toNat - 87
  else if 'A' ≤ c && c ≤ 'Z' then c.toNat - 55
  else 36

def isDigitIn (base : Nat) (c : Char) : Bool := digitValue c < base

/-- The number that the characters write, each taken for a digit. -/
def value (base : Nat) (cs : List Char) : Nat :=
  cs.foldl (fun n c => n * base + digitValue c) 0

/-- The number that a non-empty run of digits writes. -/
def value? (base : Nat) (cs : List Char) : Option Nat :=
  if cs ≠ [] ∧ cs.all (isDigitIn base) then some (value base cs) else none

/-- An unsigned number of 64 bits, with an optional plus in front. -/
def unsigned64? (s : String) : Option UInt64 :=
  let digits := match s.toList with
    | '+' :: rest => rest
    | cs => cs
  match value? 10 digits with
  | some n => if n < UInt64.size then some n.toUInt64 else none
  | none => none

end PortShare.Numeral
