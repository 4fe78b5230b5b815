import PortShare.Json.Fault

/-!
The smallest parts of JSON text: blanks, fixed words and texts. Each function starts at the
first byte of its part and gives the bytes behind it. -/

namespace PortShare.Json

@[grind →] theorem ok_of_map {ε α β : Type} {x : Except ε α} {f : α → β} {b : β}
    (h : x.map f = .ok b) : ∃ a, x = .ok a ∧ f a = b := by
  cases x with
  | error e => simp [Except.map] at h
  | ok a => exact ⟨a, rfl, by simpa [Except.map] using h⟩

def isBlank (b : UInt8) : Bool := b == 32 || b == 10 || b == 13 || b == 9

def skipBlank (bs : Bytes) : Bytes := bs.dropWhile isBlank

theorem length_skipBlank (bs : Bytes) : (skipBlank bs).length ≤ bs.length :=
  (List.dropWhile_suffix isBlank).length_le

@[grind →]
theorem length_of_skipBlank {bs rest : Bytes} {b : UInt8} (h : skipBlank bs = b :: rest) :
    rest.length < bs.length := by
  have := length_skipBlank bs
  rw [h, List.length_cons] at this
  omega

/-- A fault at the first byte of `bs`, which has been looked at. -/
def Fault.here (cause : Cause) (bs : Bytes) : Fault := .placed cause (bs.length - 1)

/-- A fault before the first byte of `bs`. -/
def Fault.before (cause : Cause) (bs : Bytes) : Fault := .placed cause bs.length

/-- Reads the bytes of a fixed word. -/
def word : Bytes → Bytes → Except Fault Bytes
  | [], bs => .ok bs
  | _ :: _, [] => .error (.placed .endInValue 0)
  | w :: ws, b :: bs => if b = w then word ws bs else .error (.before .expectedWord bs)

@[grind →] theorem length_of_word {ws bs rest : Bytes} (h : word ws bs = .ok rest) :
    rest.length ≤ bs.length := by
  fun_induction word ws bs with
  | case1 => cases h; exact Nat.le_refl _
  | case2 => cases h
  | case3 _ _ _ ih => exact Nat.le_succ_of_le (ih h)
  | case4 => cases h

def hexDigit? (b : UInt8) : Option Nat :=
  let c := Char.ofNat b.toNat
  if Numeral.isDigitIn 16 c then some (Numeral.digitValue c) else none

/-- The number that four hexadecimal digits write. -/
def hexQuad : Bytes → Except Fault (Nat × Bytes)
  | a :: b :: c :: d :: rest =>
    match hexDigit? a, hexDigit? b, hexDigit? c, hexDigit? d with
    | some a, some b, some c, some d => .ok (a * 4096 + b * 256 + c * 16 + d, rest)
    | _, _, _, _ => .error (.before .invalidEscape rest)
  | _ => .error (.placed .endInText 0)

@[grind →] theorem length_of_hexQuad {bs rest : Bytes} {n : Nat} (h : hexQuad bs = .ok (n, rest)) :
    rest.length < bs.length := by
  unfold hexQuad at h
  split at h
  · split at h
    · cases h; simp; omega
    · cases h
  · cases h

/-- The character for the second half `low` of a pair that begins with `high`. -/
def joinPair (high low : Nat) : Char :=
  Char.ofNat (0x10000 + (high - 0xD800) * 0x400 + (low - 0xDC00))

/-- Reads the second half of a pair, which is another escape. -/
def lowHalf (high : Nat) : Bytes → Except Fault (Char × Bytes)
  | [] => .error (.placed .endInText 0)
  | a :: bs =>
    if a ≠ 92 then .error (.before .endOfHexEscape bs)
    else
      match bs with
      | [] => .error (.placed .endInText 0)
      | u :: bs =>
        if u ≠ 117 then .error (.before .endOfHexEscape bs)
        else
          match hexQuad bs with
          | .error e => .error e
          | .ok (low, rest) =>
            if 0xDC00 ≤ low ∧ low < 0xE000 then .ok (joinPair high low, rest)
            else .error (.before .loneSurrogate rest)

@[grind →] theorem length_of_lowHalf {high : Nat} {bs rest : Bytes} {c : Char}
    (h : lowHalf high bs = .ok (c, rest)) : rest.length < bs.length := by
  unfold lowHalf at h
  split at h
  · cases h
  · split at h
    · cases h
    · split at h
      · cases h
      · split at h
        · cases h
        · split at h
          · cases h
          · next hq =>
            have := length_of_hexQuad hq
            split at h
            · simp only [Except.ok.injEq, Prod.mk.injEq] at h
              obtain ⟨_, rfl⟩ := h
              simp; omega
            · cases h

/-- Reads the character that four hexadecimal digits write, or that two such escapes do. -/
def hexEscape (bs : Bytes) : Except Fault (Char × Bytes) :=
  match hexQuad bs with
  | .error e => .error e
  | .ok (n, rest) =>
    if 0xDC00 ≤ n ∧ n < 0xE000 then .error (.before .loneSurrogate rest)
    else if 0xD800 ≤ n ∧ n < 0xDC00 then lowHalf n rest
    else .ok (Char.ofNat n, rest)

@[grind →]
theorem length_of_hexEscape {bs rest : Bytes} {c : Char} (h : hexEscape bs = .ok (c, rest)) :
    rest.length < bs.length := by
  unfold hexEscape at h
  split at h
  · cases h
  · next hq =>
    have := length_of_hexQuad hq
    split at h
    · cases h
    · split at h
      · have := length_of_lowHalf h
        omega
      · cases h; omega

/-- The character for a one-letter escape. -/
def shortEscape? (b : UInt8) : Option Char :=
  if b = 34 then some '"' else if b = 92 then some '\\' else if b = 47 then some '/'
  else if b = 98 then some '\x08' else if b = 102 then some '\x0c' else if b = 110 then some '\n'
  else if b = 114 then some '\r' else if b = 116 then some '\t' else none

/-- Reads the part of an escape behind its backslash. -/
def escape : Bytes → Except Fault (Char × Bytes)
  | [] => .error (.placed .endInText 0)
  | b :: bs =>
    if b = 117 then hexEscape bs
    else
      match shortEscape? b with
      | some c => .ok (c, bs)
      | none => .error (.before .invalidEscape bs)

@[grind →] theorem length_of_escape {bs rest : Bytes} {c : Char} (h : escape bs = .ok (c, rest)) :
    rest.length < bs.length := by
  unfold escape at h
  split at h
  · cases h
  · split at h
    · have := length_of_hexEscape h
      simp; omega
    · split at h
      · cases h; simp
      · cases h

/-- A text as read up to its closing quote. -/
structure Scanned where
  chars : List Char
  /-- How many bytes the text has, once its escapes are undone. -/
  size : Nat
  /-- How many of them are left where the first is no character. -/
  flaw : Option Nat
  rest : Bytes

/-- The text with one more character in front. -/
def Scanned.push (c : Char) (s : Scanned) : Scanned :=
  { s with chars := c :: s.chars, size := s.size + c.utf8Size }

/-- The text with a byte in front that is no character. -/
def Scanned.spoil (s : Scanned) : Scanned :=
  { s with size := s.size + 1, flaw := some (s.size + 1) }

@[simp] theorem Scanned.rest_push (c : Char) (s : Scanned) : (s.push c).rest = s.rest := rfl

@[simp] theorem Scanned.rest_spoil (s : Scanned) : s.spoil.rest = s.rest := rfl

/-- Reads a text behind its opening quote. -/
def scanText (bs : Bytes) : Except Fault Scanned :=
  match bs with
  | [] => .error (.placed .endInText 0)
  | b :: tail =>
    if b = 34 then .ok ⟨[], 0, none, tail⟩
    else if b = 92 then
      match h : escape tail with
      | .error e => .error e
      | .ok (c, rest) =>
        have := length_of_escape h
        match scanText rest with
        | .error e => .error e
        | .ok s => .ok (s.push c)
    else if b < 32 then .error (.before .controlCharacter tail)
    else
      match h : Utf8.next (b :: tail) with
      | some (c, rest) =>
        have := Utf8.length_of_next h
        match scanText rest with
        | .error e => .error e
        | .ok s => .ok (s.push c)
      | none =>
        match scanText tail with
        | .error e => .error e
        | .ok s => .ok s.spoil
termination_by bs.length
decreasing_by all_goals simp_all; try omega

@[grind →] theorem length_of_scanText {bs : Bytes} {s : Scanned} (h : scanText bs = .ok s) :
    s.rest.length < bs.length := by
  fun_induction scanText bs generalizing s with
  | case1 | case3 | case4 | case6 | case7 | case9 => cases h
  | case2 => cases h; simp
  | case5 | case8 | case10 =>
    rename_i ih
    cases h
    have := ih (by assumption)
    simp at *; omega

/-- Reads a text behind its opening quote and refuses it if bytes in it are no character. The fault
is placed as far before the end of the text as the byte is before the end of what is written. -/
def readText (bs : Bytes) : Except Fault (String × Bytes) :=
  match scanText bs with
  | .error e => .error e
  | .ok s =>
    match s.flaw with
    | some left => .error (.placed .invalidText (s.rest.length + left))
    | none => .ok (String.ofList s.chars, s.rest)

@[grind →]
theorem length_of_readText {bs rest : Bytes} {s : String} (h : readText bs = .ok (s, rest)) :
    rest.length < bs.length := by
  unfold readText at h
  split at h
  · cases h
  · next hs =>
    split at h
    · cases h
    · cases h; exact length_of_scanText hs

/-- Passes over the part of an escape behind its backslash, of which only the form counts. -/
def skipEscape : Bytes → Except Fault Bytes
  | [] => .error (.placed .endInText 0)
  | b :: bs =>
    if b = 117 then (hexQuad bs).map Prod.snd
    else if (shortEscape? b).isSome then .ok bs
    else .error (.before .invalidEscape bs)

@[grind →] theorem length_of_skipEscape {bs rest : Bytes} (h : skipEscape bs = .ok rest) :
    rest.length < bs.length := by
  unfold skipEscape at h
  grind

/-- Passes over a text behind its opening quote. -/
def skipText (bs : Bytes) : Except Fault Bytes :=
  match bs with
  | [] => .error (.placed .endInText 0)
  | b :: tail =>
    if b = 34 then .ok tail
    else if b = 92 then
      match h : skipEscape tail with
      | .error e => .error e
      | .ok rest =>
        have := length_of_skipEscape h
        skipText rest
    else if b < 32 then .error (.before .controlCharacter (b :: tail))
    else skipText tail
termination_by bs.length
decreasing_by all_goals simp_all; try omega

@[grind →] theorem length_of_skipText {bs rest : Bytes} (h : skipText bs = .ok rest) :
    rest.length < bs.length := by
  fun_induction skipText bs with
  | case1 | case3 | case5 => cases h
  | case2 => cases h; simp
  | case4 _ _ _ _ _ ih => have := ih h; simp at *; omega
  | case6 _ _ _ _ _ ih => have := ih h; simp at *; omega

end PortShare.Json
