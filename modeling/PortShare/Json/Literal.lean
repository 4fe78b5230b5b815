import PortShare.Json.Lexeme

/-!
Numbers as they are written. A literal is read as its runs of digits; its value keeps 64 bits
of digits, and what does not fit there is a number of floating point. -/

namespace PortShare.Json

def isDigit (b : UInt8) : Bool := 48 ≤ b && b ≤ 57

/-- Runs of digits, with the fraction's and the exponent's if there is one. -/
structure Literal where
  whole : List Nat
  fraction : Option (List Nat)
  exponent : Option (Bool × List Nat)

namespace Literal

/-- The digits at the head of `bs`, and the bytes behind them. -/
def digits (bs : Bytes) : List Nat × Bytes :=
  ((bs.takeWhile isDigit).map fun b => b.toNat - 48, bs.dropWhile isDigit)

theorem length_digits (bs : Bytes) : (digits bs).2.length ≤ bs.length :=
  (List.dropWhile_suffix isDigit).length_le

/-- Reads an exponent; `atEnd` is the cause to report where the bytes end in it. -/
def exponentPart (atEnd : Cause) :
    Bytes → Except Fault (Option (Bool × List Nat) × Bytes)
  | [] => .ok (none, [])
  | b :: bs =>
    if b = 101 ∨ b = 69 then
      let (minus, bs) := match bs with
        | [] => (false, [])
        | s :: t => if s = 45 then (true, t) else if s = 43 then (false, t) else (false, bs)
      match bs with
      | [] => .error (.placed atEnd 0)
      | d :: t =>
        if isDigit d then .ok (some (minus, (digits bs).1), (digits bs).2)
        else .error (.before .invalidNumber t)
    else .ok (none, b :: bs)

/-- Reads the digits behind a point. -/
def fractionPart (atEnd : Cause) : Bytes → Except Fault (Option (List Nat) × Bytes)
  | [] => .ok (none, [])
  | b :: bs =>
    if b = 46 then
      match bs with
      | [] => .error (.placed atEnd 0)
      | d :: t =>
        if isDigit d then .ok (some (digits bs).1, (digits bs).2)
        else .error (.here .invalidNumber (d :: t))
    else .ok (none, b :: bs)

/-- Reads the digits in front of a point; a zero stands alone. -/
def wholePart (atEnd : Cause) : Bytes → Except Fault (List Nat × Bytes)
  | [] => .error (.placed atEnd 0)
  | b :: bs =>
    if b = 48 then
      match bs with
      | [] => .ok ([0], [])
      | d :: t => if isDigit d then .error (.here .invalidNumber (d :: t)) else .ok ([0], d :: t)
    else if isDigit b then .ok (digits (b :: bs))
    else .error (.before .invalidNumber bs)

/-- Reads a number behind its minus sign, if it has one. -/
def read (atEnd : Cause) (bs : Bytes) : Except Fault (Literal × Bytes) :=
  match wholePart atEnd bs with
  | .error e => .error e
  | .ok (whole, bs) =>
    match fractionPart atEnd bs with
    | .error e => .error e
    | .ok (fraction, bs) =>
      match exponentPart atEnd bs with
      | .error e => .error e
      | .ok (exponent, bs) => .ok (⟨whole, fraction, exponent⟩, bs)

@[grind →]
theorem length_of_exponentPart {atEnd : Cause} {bs rest : Bytes} {e : Option (Bool × List Nat)}
    (h : exponentPart atEnd bs = .ok (e, rest)) : rest.length ≤ bs.length := by
  unfold exponentPart at h
  split at h
  · cases h; simp
  · split at h
    · next b bs _ =>
      simp only at h
      split at h
      · cases h
      · next d t hd =>
        split at h
        · cases h
          have : (d :: t).length ≤ bs.length := by
            rw [← hd]
            split
            · simp
            · split
              · simp
              · split <;> simp
          have hl := length_digits (d :: t)
          rw [← hd] at hl this
          simp only [List.length_cons]
          omega
        · cases h
    · cases h; simp

@[grind →] theorem length_of_fractionPart {atEnd : Cause} {bs rest : Bytes} {f : Option (List Nat)}
    (h : fractionPart atEnd bs = .ok (f, rest)) : rest.length ≤ bs.length := by
  unfold fractionPart at h
  split at h
  · cases h; simp
  · split at h
    · split at h
      · cases h
      · split at h
        · cases h
          have := length_digits (by assumption :: by assumption)
          simp only [List.length_cons] at *
          omega
        · cases h
    · cases h; simp

@[grind →] theorem length_of_wholePart {atEnd : Cause} {bs rest : Bytes} {ds : List Nat}
    (h : wholePart atEnd bs = .ok (ds, rest)) : rest.length < bs.length := by
  unfold wholePart at h
  split at h
  · cases h
  · split at h
    · split at h
      · cases h; simp
      · split at h
        · cases h
        · cases h; simp
    · split at h
      · next b bs _ hb =>
        cases h
        have : (bs.dropWhile isDigit).length ≤ bs.length :=
          (List.dropWhile_suffix isDigit).length_le
        simp only [List.dropWhile_cons, hb, if_true, List.length_cons]
        omega
      · cases h

@[grind →] theorem length_of_read {atEnd : Cause} {bs rest : Bytes} {l : Literal}
    (h : read atEnd bs = .ok (l, rest)) : rest.length < bs.length := by
  unfold read at h
  split at h
  · cases h
  · next hw =>
    split at h
    · cases h
    · next hf =>
      split at h
      · cases h
      · next he =>
        cases h
        have := length_of_wholePart hw
        have := length_of_fractionPart hf
        have := length_of_exponentPart he
        omega

/-- Appends digits to `n` while the number fits 64 bits; the digits left over are given back. -/
def absorb (n : Nat) : List Nat → Nat × List Nat
  | [] => (n, [])
  | d :: ds => if n * 10 + d < 18446744073709551616 then absorb (n * 10 + d) ds else (n, d :: ds)

/-- `x` divided by the last finite power of ten, up to `k` times. -/
def shrink : Nat → Binary64 → Binary64
  | 0, x => x
  | k + 1, x =>
    if x.isZero then x else shrink k ((x.div? (.powerOfTen 308)).getD .zero)

/-- `x` times a power of ten, by one rounding where the power itself is finite. -/
def scale (x : Binary64) (e : Int) : Option Binary64 :=
  if 308 < e then if x.isZero then some x else none
  else if 0 ≤ e then x.mul? (.powerOfTen e.toNat)
  else
    let steps := ((-e).toNat - 1) / 308
    (shrink steps x).div? (.powerOfTen ((-e).toNat - 308 * steps))

/-- The exponent that the digits write, or the digits behind the one with which it leaves
32 bits. -/
def exponentValue (n : Nat) : List Nat → Except (List Nat) Nat
  | [] => .ok n
  | d :: ds => if n * 10 + d < 2147483648 then exponentValue (n * 10 + d) ds else .error ds

/-- The number a literal writes. One that is too large is refused behind the literal or, if
the exponent alone is too large, behind the digit where that shows; the number of bytes from
there to the literal's end is given. -/
def number (minus : Bool) (l : Literal) : Except Nat Number :=
  let (n, beyond) := absorb 0 l.whole
  match l.fraction, l.exponent, beyond with
  | none, none, [] =>
    if !minus then .ok (.natural n)
    else if n = 0 ∨ 9223372036854775808 < n then
      .ok (.float true ((Binary64.ofRatio? n 1).getD .zero))
    else .ok (.negative n)
  | fraction, exponent, beyond =>
    let places := fraction.getD []
    let (n, unread) := absorb n places
    let start : Int := beyond.length - (places.length - unread.length : Nat)
    match exponent with
    | none => float n start
    | some (down, ds) =>
      match exponentValue 0 ds with
      | .ok e => float n (if down then start - e else start + e)
      | .error rest => if n = 0 ∨ down then .ok (.float minus .zero) else .error rest.length
where
  float (n : Nat) (e : Int) : Except Nat Number :=
    match scale ((Binary64.ofRatio? n 1).getD .zero) e with
    | some x => .ok (.float minus x)
    | none => .error 0

end Literal

/-- Reads a number; `atEnd` is the cause to report where the bytes end in it. -/
def readNumber : Bytes → Except Fault (Number × Bytes)
  | [] => .error (.placed .endInValue 0)
  | b :: bs =>
    let minus := b == 45
    match Literal.read .endInValue (if minus then bs else b :: bs) with
    | .error e => .error e
    | .ok (l, rest) =>
      match l.number minus with
      | .ok n => .ok (n, rest)
      | .error unread => .error (.placed .numberOutOfRange (rest.length + unread))

@[grind →]
theorem length_of_readNumber {bs rest : Bytes} {n : Number} (h : readNumber bs = .ok (n, rest)) :
    rest.length < bs.length := by
  unfold readNumber at h
  split at h
  · cases h
  · next b bs =>
    simp only at h
    split at h
    · cases h
    · next hl =>
      have := Literal.length_of_read hl
      split at h
      · cases h
        split at this <;> simp at * <;> omega
      · cases h

/-- Passes over a number, of which only the form counts. -/
def skipNumber : Bytes → Except Fault Bytes
  | [] => .error (.placed .endInValue 0)
  | b :: bs => (Literal.read .invalidNumber (if b = 45 then bs else b :: bs)).map Prod.snd

@[grind →] theorem length_of_skipNumber {bs rest : Bytes} (h : skipNumber bs = .ok rest) :
    rest.length < bs.length := by
  unfold skipNumber at h
  grind

end PortShare.Json
