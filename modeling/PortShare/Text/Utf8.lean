/-!
UTF-8. A character is written in one to four bytes, `next` reads one character back, and
`decodeLossy` shows any bytes, with U+FFFD for each longest piece that starts like a
character and is none. -/

namespace PortShare

abbrev Bytes := List UInt8

namespace Utf8

/-- The continuation byte that holds the low six bits of `n`. -/
def tailByte (n : Nat) : UInt8 := (0x80 + n % 64).toUInt8

def encodeChar (c : Char) : Bytes :=
  let n := c.toNat
  if n < 0x80 then [n.toUInt8]
  else if n < 0x800 then [(0xC0 + n / 64).toUInt8, tailByte n]
  else if n < 0x10000 then [(0xE0 + n / 4096).toUInt8, tailByte (n / 64), tailByte n]
  else [(0xF0 + n / 262144).toUInt8, tailByte (n / 4096), tailByte (n / 64), tailByte n]

def encode (cs : List Char) : Bytes := cs.flatMap encodeChar

/-- The bytes that may follow `lead` in a character of more than one byte. -/
def isSecond (lead second : Nat) : Bool :=
  if lead = 0xE0 then 0xA0 ≤ second && second < 0xC0
  else if lead = 0xED then 0x80 ≤ second && second < 0xA0
  else if lead = 0xF0 then 0x90 ≤ second && second < 0xC0
  else if lead = 0xF4 then 0x80 ≤ second && second < 0x90
  else 0x80 ≤ second && second < 0xC0

def isTail (n : Nat) : Bool := 0x80 ≤ n && n < 0xC0

/-- How many bytes a character that starts with `lead` has; none starts with other bytes. -/
def width? (lead : Nat) : Option Nat :=
  if lead < 0x80 then some 1
  else if lead < 0xC2 then none
  else if lead < 0xE0 then some 2
  else if lead < 0xF0 then some 3
  else if lead < 0xF5 then some 4
  else none

/-- How many of the first bytes belong together: a whole character, or the longest piece
that starts like one (at least one byte). -/
def pieceLength (lead : Nat) (rest : Bytes) : Nat :=
  match width? lead, rest with
  | some w, b :: t =>
    if 1 < w && isSecond lead b.toNat then
      2 + ((t.take (w - 2)).takeWhile fun b => isTail b.toNat).length
    else 1
  | _, _ => 1

/-- The first character and the bytes after it. -/
def next : Bytes → Option (Char × Bytes)
  | [] => none
  | a :: rest =>
    let lead := a.toNat
    match width? lead, rest with
    | some 1, rest => some (Char.ofNat lead, rest)
    | some 2, b :: rest =>
      if isSecond lead b.toNat then
        some (Char.ofNat ((lead - 0xC0) * 64 + (b.toNat - 0x80)), rest)
      else none
    | some 3, b :: c :: rest =>
      if isSecond lead b.toNat && isTail c.toNat then
        some (Char.ofNat ((lead - 0xE0) * 4096 + (b.toNat - 0x80) * 64 + (c.toNat - 0x80)), rest)
      else none
    | some 4, b :: c :: d :: rest =>
      if isSecond lead b.toNat && isTail c.toNat && isTail d.toNat then
        some (Char.ofNat ((lead - 0xF0) * 262144 + (b.toNat - 0x80) * 4096
          + (c.toNat - 0x80) * 64 + (d.toNat - 0x80)), rest)
      else none
    | _, _ => none

@[grind →] theorem length_of_next {bs rest : Bytes} {c : Char} (h : next bs = some (c, rest)) :
    rest.length < bs.length := by
  unfold next at h
  split at h
  · simp at h
  · dsimp only at h
    split at h
    all_goals first
      | (split at h <;> simp_all <;> omega)
      | simp_all

/-- All characters, if the bytes are well-formed. -/
def decode? (bs : Bytes) : Option (List Char) :=
  match bs with
  | [] => some []
  | b :: bs' =>
    match h : next (b :: bs') with
    | none => none
    | some (c, rest) =>
      have := length_of_next h
      (decode? rest).map (c :: ·)
termination_by bs.length
decreasing_by grind

/-- The characters of the well-formed parts, and U+FFFD for each ill-formed piece. -/
def decodeLossy (bs : Bytes) : List Char :=
  match bs with
  | [] => []
  | b :: bs' =>
    match h : next (b :: bs') with
    | some (c, rest) =>
      have := length_of_next h
      c :: decodeLossy rest
    | none => '\uFFFD' :: decodeLossy (bs'.drop (pieceLength b.toNat bs' - 1))
termination_by bs.length
decreasing_by all_goals grind [List.length_drop]

/-- A text as it is stored and sent. -/
def bytes (s : String) : Bytes := encode s.toList

/-- The text that shows these bytes. -/
def shown (bs : Bytes) : String := String.ofList (decodeLossy bs)

/-- The text that these bytes are, if they are well-formed. -/
def text? (bs : Bytes) : Option String := (decode? bs).map String.ofList

end Utf8

end PortShare
