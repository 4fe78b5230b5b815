import PortShare.Json.Literal

/-! The grammar of JSON: which bytes write a value. A value may be written in many ways, with blanks
between its parts and with escapes in its texts; numbers are told apart as they are written. -/

namespace PortShare.Json

inductive Term where
  | null
  | bool (b : Bool)
  | number (minus : Bool) (literal : Literal)
  | text (s : String)
  | list (items : List Term)
  | object (members : List (String × Term))

def Blank (bs : Bytes) : Prop := ∀ b ∈ bs, b = 32 ∨ b = 10 ∨ b = 13 ∨ b = 9

theorem blank_nil : Blank [] := nofun

def digitByte (d : Nat) : UInt8 := (48 + d).toUInt8

/-- A run of digits, of which there is at least one. -/
inductive WritesDigits : List Nat → Bytes → Prop where
  | intro {ds : List Nat} : ds ≠ [] → (∀ d ∈ ds, d < 10) → WritesDigits ds (ds.map digitByte)

inductive WritesFraction : Option (List Nat) → Bytes → Prop where
  | absent : WritesFraction none []
  | point {ds : List Nat} {bs : Bytes} : WritesDigits ds bs → WritesFraction (some ds) (46 :: bs)

inductive WritesExponent : Option (Bool × List Nat) → Bytes → Prop where
  | absent : WritesExponent none []
  | bare {e : UInt8} {ds : List Nat} {bs : Bytes} : e = 101 ∨ e = 69 → WritesDigits ds bs →
      WritesExponent (some (false, ds)) (e :: bs)
  | plus {e : UInt8} {ds : List Nat} {bs : Bytes} : e = 101 ∨ e = 69 → WritesDigits ds bs →
      WritesExponent (some (false, ds)) (e :: 43 :: bs)
  | minus {e : UInt8} {ds : List Nat} {bs : Bytes} : e = 101 ∨ e = 69 → WritesDigits ds bs →
      WritesExponent (some (true, ds)) (e :: 45 :: bs)

/-- Digits in front of a point begin with a zero only if that is all. -/
def IsWhole (ds : List Nat) : Prop := ds = [0] ∨ ds.head? ≠ some 0

/-- A number behind its minus sign, if it has one. -/
inductive WritesLiteral : Literal → Bytes → Prop where
  | intro {ds : List Nat} {fraction : Option (List Nat)} {exponent : Option (Bool × List Nat)}
      {whole point power : Bytes} : IsWhole ds → WritesDigits ds whole →
      WritesFraction fraction point → WritesExponent exponent power →
      WritesLiteral ⟨ds, fraction, exponent⟩ (whole ++ (point ++ power))

/-- A hexadecimal digit, in letters of either case. -/
inductive WritesHex : Nat → UInt8 → Prop where
  | digit {d : Nat} : d < 10 → WritesHex d (48 + d).toUInt8
  | small {d : Nat} : 10 ≤ d → d < 16 → WritesHex d (87 + d).toUInt8
  | capital {d : Nat} : 10 ≤ d → d < 16 → WritesHex d (55 + d).toUInt8

/-- The four hexadecimal digits of a number. -/
inductive WritesQuad (n : Nat) : Bytes → Prop where
  | intro {a b c d : UInt8} : n < 65536 → WritesHex (n / 4096) a → WritesHex (n / 256 % 16) b →
      WritesHex (n / 16 % 16) c → WritesHex (n % 16) d → WritesQuad n [a, b, c, d]

/-- The letters that stand for a character behind a backslash. -/
def shortEscapes : List (UInt8 × Char) :=
  [(34, '"'), (92, '\\'), (47, '/'), (98, '\x08'), (102, '\x0c'), (110, '\n'), (114, '\r'),
    (116, '\t')]

/-- A character in a text, as itself or as an escape. -/
inductive WritesChar : Char → Bytes → Prop where
  | plain {c : Char} : c ≠ '"' → c ≠ '\\' → 32 ≤ c.toNat → WritesChar c (Utf8.encodeChar c)
  | short {c : Char} {b : UInt8} : (b, c) ∈ shortEscapes → WritesChar c [92, b]
  | code {c : Char} {quad : Bytes} : WritesQuad c.toNat quad → WritesChar c (92 :: 117 :: quad)
  | pair {c : Char} {high low : Bytes} : 0x10000 ≤ c.toNat →
      WritesQuad (0xD800 + (c.toNat - 0x10000) / 0x400) high →
      WritesQuad (0xDC00 + c.toNat % 0x400) low →
      WritesChar c (92 :: 117 :: (high ++ 92 :: 117 :: low))

inductive WritesChars : List Char → Bytes → Prop where
  | nil : WritesChars [] []
  | cons {c : Char} {cs : List Char} {bs rest : Bytes} : WritesChar c bs → WritesChars cs rest →
      WritesChars (c :: cs) (bs ++ rest)

/-- A text behind its opening quote. -/
inductive WritesText : String → Bytes → Prop where
  | intro {s : String} {bs : Bytes} : WritesChars s.toList bs → WritesText s (bs ++ [34])

mutual

/-- A value, from its first byte to its last. -/
inductive Writes : Term → Bytes → Prop where
  | null : Writes .null [110, 117, 108, 108]
  | yes : Writes (.bool true) [116, 114, 117, 101]
  | no : Writes (.bool false) [102, 97, 108, 115, 101]
  | number {l : Literal} {bs : Bytes} : WritesLiteral l bs → Writes (.number false l) bs
  | negative {l : Literal} {bs : Bytes} : WritesLiteral l bs → Writes (.number true l) (45 :: bs)
  | text {s : String} {bs : Bytes} : WritesText s bs → Writes (.text s) (34 :: bs)
  | list {ts : List Term} {bs : Bytes} : WritesItems true ts bs → Writes (.list ts) (91 :: bs)
  | object {ms : List (String × Term)} {bs : Bytes} : WritesMembers true ms bs →
      Writes (.object ms) (123 :: bs)

/-- The items that are still to come in a list, and its end; the first has no comma in front. -/
inductive WritesItems : Bool → List Term → Bytes → Prop where
  | nil {first : Bool} {blank : Bytes} : Blank blank → WritesItems first [] (blank ++ [93])
  | first {t : Term} {ts : List Term} {blank bs rest : Bytes} : Blank blank → Writes t bs →
      WritesItems false ts rest → WritesItems true (t :: ts) (blank ++ (bs ++ rest))
  | next {t : Term} {ts : List Term} {blank blank' bs rest : Bytes} : Blank blank →
      Blank blank' → Writes t bs → WritesItems false ts rest →
      WritesItems false (t :: ts) (blank ++ 44 :: (blank' ++ (bs ++ rest)))

inductive WritesMembers : Bool → List (String × Term) → Bytes → Prop where
  | nil {first : Bool} {blank : Bytes} : Blank blank → WritesMembers first [] (blank ++ [125])
  | first {key : String} {t : Term} {ms : List (String × Term)} {blank k v rest : Bytes} :
      Blank blank → WritesText key k → WritesValue t v → WritesMembers false ms rest →
      WritesMembers true ((key, t) :: ms) (blank ++ 34 :: (k ++ (v ++ rest)))
  | next {key : String} {t : Term} {ms : List (String × Term)} {blank blank' k v rest : Bytes} :
      Blank blank → Blank blank' → WritesText key k → WritesValue t v →
      WritesMembers false ms rest →
      WritesMembers false ((key, t) :: ms)
        (blank ++ 44 :: (blank' ++ 34 :: (k ++ (v ++ rest))))

/-- The value of a member, with the colon in front of it. -/
inductive WritesValue : Term → Bytes → Prop where
  | intro {t : Term} {blank blank' bs : Bytes} : Blank blank → Blank blank' → Writes t bs →
      WritesValue t (blank ++ 58 :: (blank' ++ bs))

end

/-- A whole text: a value with blanks around it. -/
inductive Document : Term → Bytes → Prop where
  | intro {t : Term} {blank blank' bs : Bytes} : Blank blank → Writes t bs → Blank blank' →
      Document t (blank ++ (bs ++ blank'))

end PortShare.Json
