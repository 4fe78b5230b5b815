import PortShare.Decimal.Binary64
import PortShare.Text.Numeral

/-!
The text of a floating point number: the fewest digits that read back as the number, and of
those the nearest. Numbers with a decimal exponent from -5 to 15 are written in place, with
`.0` if they are whole; all others have one digit before the point and a signed exponent. -/

namespace PortShare.Binary64

/-- Quadruple of the significand of the midpoints between `x` and its two neighbours. -/
def midpoints (x : Binary64) : Nat × Nat :=
  let m := 4 * x.significand
  (if x.significand = Nat.pow 2 52 ∧ -1074 < x.exponent then m - 1 else m - 2, m + 2)

/-- Does the decimal `n * 10 ^ k` read back as `x`? -/
def readsBack (x : Binary64) (n : Nat) (k : Int) : Bool :=
  let (lo, hi) := x.midpoints
  let left := n * Nat.pow 10 k.toNat * 4 * Nat.pow 2 (-x.exponent).toNat
  let unit := Nat.pow 2 x.exponent.toNat * Nat.pow 10 (-k).toNat
  if x.significand % 2 = 0 then lo * unit ≤ left && left ≤ hi * unit
  else lo * unit < left && left < hi * unit

/-- Of the multiples of `10 ^ k` next to `x`, one that reads back: the nearer, and of two
equally near the even one. -/
def onGrid? (x : Binary64) (k : Int) : Option Nat :=
  let (num, den) := x.ratio
  let num := num * Nat.pow 10 (-k).toNat
  let den := den * Nat.pow 10 k.toNat
  let near := roundDiv num den
  let far := if near * den ≤ num then near + 1 else near - 1
  if readsBack x near k then some near
  else if readsBack x far k then some far else none

/-- Decimal exponent of the leading digit, for a number that is not zero. -/
def leading (x : Binary64) : Int :=
  let (num, den) := x.ratio
  if den ≤ num then (Numeral.digits 10 (num / den)).length - 1
  else
    let up := (Numeral.digits 10 (den / num)).length
    if den ≤ num * Nat.pow 10 (up - 1) then 1 - (up : Int) else -(up : Int)

/-- Digits and exponent of the first grid, from coarse to fine, that has a multiple which
reads back; seventeen digits always do. -/
def shortest (x : Binary64) : Nat × Int :=
  let grids := (List.range 18).map fun (i : Nat) => x.leading + 1 - (i : Int)
  (grids.findSome? fun k => (x.onGrid? k).map fun n => (n, k)).getD (0, 0)

def dropZeros (cs : List Char) : List Char := (cs.reverse.dropWhile (· == '0')).reverse

/-- Writes the digits `ds`, of which the first has the decimal exponent `e`. -/
def layout (ds : List Char) (e : Int) : List Char :=
  if 0 ≤ e ∧ e < 16 then
    let whole := (e + 1).toNat
    ds.take whole ++ List.replicate (whole - ds.length) '0' ++ ['.']
      ++ (if ds.length ≤ whole then ['0'] else ds.drop whole)
  else if -5 ≤ e ∧ e < 0 then
    ['0', '.'] ++ List.replicate (-e - 1).toNat '0' ++ ds
  else
    ds.take 1 ++ (if ds.length ≤ 1 then [] else '.' :: ds.drop 1)
      ++ (if e < 0 then ['e', '-'] else ['e', '+']) ++ Numeral.digits 10 e.natAbs

def render (x : Binary64) : String :=
  if x.isZero then "0.0"
  else
    let (n, k) := x.shortest
    let ds := Numeral.digits 10 n
    String.ofList (layout (dropZeros ds) (k + ds.length - 1))

end PortShare.Binary64
