import PortShare.Decimal.Binary64
import PortShare.Text.Numeral

/-! Values of TOML that are written as one word: truth values, numbers, dates and times. -/

namespace PortShare.Toml

/-- A word is kept as far as settings need it: of a number of floating point whether it is
finite or not a number by its own word, and of a date that it is one. -/
inductive Word where
  | bool (b : Bool)
  | integer (minus : Bool) (n : Nat)
  | float (overflows : Bool)
  | moment
  deriving DecidableEq, Repr

namespace Word

/-- The digits of a run in which single underscores may stand between digits. -/
def digits? (base : Nat) : List Char → Option (List Char)
  | [] => none
  | [c] => if Numeral.isDigitIn base c then some [c] else none
  | c :: d :: cs =>
    if Numeral.isDigitIn base c then
      (digits? base (if d = '_' then cs else d :: cs)).map (c :: ·)
    else none
termination_by cs => cs.length
decreasing_by grind

/-- The sign in front of a number, and the rest. -/
def splitSign : List Char → Bool × List Char
  | '-' :: cs => (true, cs)
  | '+' :: cs => (false, cs)
  | cs => (false, cs)

/-- The digits of a number in front of its point: a zero stands alone. -/
def whole? (cs : List Char) : Option (List Char) :=
  match digits? 10 cs with
  | some ds => if 1 < ds.length ∧ ds.head? = some '0' then none else some ds
  | none => none

def integer? (cs : List Char) : Option Word :=
  let based (base : Nat) (cs : List Char) : Option Word :=
    (digits? base cs).map fun ds => .integer false (Numeral.value base ds)
  match cs with
  | '0' :: 'x' :: cs => based 16 cs
  | '0' :: 'o' :: cs => based 8 cs
  | '0' :: 'b' :: cs => based 2 cs
  | cs =>
    let (minus, cs) := splitSign cs
    (whole? cs).map fun ds => .integer minus (Numeral.value 10 ds)

/-- Is the number that the digits write, times a power of ten, above all finite ones? -/
def overflows (digits : List Char) (exponent : Int) : Bool :=
  let n := Numeral.value 10 digits
  let size := (Numeral.digits 10 n).length + exponent
  if n = 0 ∨ size < -400 then false
  else if 400 < size then true
  else
    (Binary64.ofRatio? (n * Nat.pow 10 exponent.toNat) (Nat.pow 10 (-exponent).toNat)).isNone

def isExponentMark (c : Char) : Bool := c == 'e' || c == 'E'

def float? (cs : List Char) : Option Word :=
  let (_, cs) := splitSign cs
  if cs = ['i', 'n', 'f'] ∨ cs = ['n', 'a', 'n'] then some (.float false)
  else
    let front := cs.takeWhile fun c => c != '.' && !isExponentMark c
    let fraction := match cs.drop front.length with
      | '.' :: rest => some (rest.takeWhile fun c => !isExponentMark c)
      | _ => none
    let mark := cs.dropWhile fun c => !isExponentMark c
    let exponent := match mark with
      | [] => some none
      | _ :: rest =>
        let (minus, ds) := splitSign rest
        (digits? 10 ds).map fun ds =>
          some (if minus then -(Numeral.value 10 ds : Int) else Numeral.value 10 ds)
    let places := match fraction with
      | none => some []
      | some ds => digits? 10 ds
    match whole? front, places, exponent with
    | some ds, some ps, some e =>
      if fraction.isNone ∧ e.isNone then none
      else some (.float (overflows (ds ++ ps) (e.getD 0 - ps.length)))
    | _, _, _ => none

/-- The number that exactly `count` digits at the head write, and what follows them. -/
def fixed? (count : Nat) (cs : List Char) : Option (Nat × List Char) :=
  match Numeral.value? 10 (cs.take count) with
  | some n => if (cs.take count).length = count then some (n, cs.drop count) else none
  | none => none

def daysIn (year month : Nat) : Nat :=
  if month = 2 then
    if year % 4 = 0 ∧ (year % 100 ≠ 0 ∨ year % 400 = 0) then 29 else 28
  else if month = 4 ∨ month = 6 ∨ month = 9 ∨ month = 11 then 30
  else 31

/-- What follows a date, if one stands at the head. -/
def date? (cs : List Char) : Option (List Char) :=
  match fixed? 4 cs with
  | some (year, '-' :: cs) =>
    match fixed? 2 cs with
    | some (month, '-' :: cs) =>
      match fixed? 2 cs with
      | some (day, rest) =>
        if 1 ≤ month ∧ month ≤ 12 ∧ 1 ≤ day ∧ day ≤ daysIn year month then some rest else none
      | none => none
    | _ => none
  | _ => none

/-- What follows a time of day, if one stands at the head; seconds may be left out. -/
def time? (cs : List Char) : Option (List Char) :=
  match fixed? 2 cs with
  | some (hour, ':' :: cs) =>
    match fixed? 2 cs with
    | some (minute, rest) =>
      if 23 < hour ∨ 59 < minute then none
      else
        match rest with
        | ':' :: cs =>
          match fixed? 2 cs with
          | some (second, rest) =>
            if 60 < second then none
            else
              match rest with
              | '.' :: ds =>
                if (ds.takeWhile Char.isDigit).isEmpty then none
                else some (ds.dropWhile Char.isDigit)
              | rest => some rest
          | none => none
        | rest => some rest
    | none => none
  | _ => none

def isOffset : List Char → Bool
  | [] => true
  | ['Z'] | ['z'] => true
  | c :: cs =>
    if c = '+' ∨ c = '-' then
      match fixed? 2 cs with
      | some (hour, ':' :: cs) =>
        match fixed? 2 cs with
        | some (minute, []) => hour ≤ 23 && minute ≤ 59
        | _ => false
      | _ => false
    else false

def isMoment (cs : List Char) : Bool :=
  match date? cs with
  | some [] => true
  | some (c :: rest) =>
    (c == 'T' || c == 't' || c == ' ') && (time? rest).any isOffset
  | none => time? cs == some []

def read? (cs : List Char) : Option Word :=
  if cs = ['t', 'r', 'u', 'e'] then some (.bool true)
  else if cs = ['f', 'a', 'l', 's', 'e'] then some (.bool false)
  else if isMoment cs then some .moment
  else integer? cs <|> float? cs

end Word

def isWordChar (c : Char) : Bool :=
  c.isAlphanum || c == '+' || c == '-' || c == '_' || c == '.' || c == ':'

/-- The characters of a word at the head; a blank may divide a date and a time. -/
def wordChars (cs : List Char) : List Char :=
  let word := cs.takeWhile isWordChar
  match cs.drop word.length with
  | ' ' :: c :: rest =>
    if Word.date? word == some [] && c.isDigit then
      word ++ ' ' :: (c :: rest).takeWhile isWordChar
    else word
  | _ => word

end PortShare.Toml
