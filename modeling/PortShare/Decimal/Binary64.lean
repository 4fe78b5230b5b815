/-!
Binary floating point of 64 bits, finite and not negative, as a whole number times a power
of two. Sums of digits and scalings are rounded to the nearest, a half to the even neighbour. -/

namespace PortShare

/-- The value is `significand * 2 ^ exponent`, with `significand < 2 ^ 53`. -/
structure Binary64 where
  significand : Nat
  exponent : Int
  deriving DecidableEq, Repr

namespace Binary64

def zero : Binary64 := ⟨0, 0⟩

def isZero (x : Binary64) : Bool := x.significand == 0

/-- The whole number nearest to `num / den`. -/
def roundDiv (num den : Nat) : Nat :=
  let q := num / den
  let r := 2 * (num % den)
  if r < den then q else if den < r then q + 1 else q + q % 2

/-- `num * 2 ^ (-e)` over `den`, as a quotient of whole numbers. -/
def scaled (num den : Nat) (e : Int) : Nat × Nat :=
  if 0 ≤ e then (num, den * Nat.pow 2 e.toNat) else (num * Nat.pow 2 (-e).toNat, den)

/-- A rounded significand with its exponent, if that does not overflow. Rounding can make it one bit
too long; it is then a power of two. -/
def ofRounded? (m : Nat) (e : Int) : Option Binary64 :=
  let x : Binary64 := if m = Nat.pow 2 53 then ⟨Nat.pow 2 52, e + 1⟩ else ⟨m, e⟩
  if 971 < x.exponent then none else some x

/-- The number of 64 bits nearest to `num / den`, if it does not overflow. -/
def ofRatio? (num den : Nat) : Option Binary64 :=
  if num = 0 then some zero
  else
    let start := max ((Nat.log2 num : Int) - Nat.log2 den - 53) (-1074)
    let (n, d) := scaled num den start
    let e := if Nat.pow 2 53 ≤ n / d then start + 1 else start
    let (n, d) := scaled num den e
    ofRounded? (roundDiv n d) e

def ratio (x : Binary64) : Nat × Nat :=
  if 0 ≤ x.exponent then (x.significand * Nat.pow 2 x.exponent.toNat, 1)
  else (x.significand, Nat.pow 2 (-x.exponent).toNat)

def mul? (x y : Binary64) : Option Binary64 :=
  ofRatio? (x.ratio.1 * y.ratio.1) (x.ratio.2 * y.ratio.2)

def div? (x y : Binary64) : Option Binary64 :=
  ofRatio? (x.ratio.1 * y.ratio.2) (x.ratio.2 * y.ratio.1)

/-- The number nearest to a power of ten; `powerOfTen 308` is the last that is finite. -/
def powerOfTen (n : Nat) : Binary64 := (ofRatio? (Nat.pow 10 n) 1).getD zero

end Binary64

end PortShare
