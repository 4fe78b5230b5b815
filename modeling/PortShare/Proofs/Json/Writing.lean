import PortShare.Json.Writer
import PortShare.Proofs.Json.Number

/-! What is written on one line is JSON: every value without a number of floating point is written
as the grammar has it, whatever its texts hold. -/

namespace PortShare.Json

open Utf8 (encode encodeChar encode_cons encode_append)

section text

theorem writesHex_digit {d : Nat} (h : d < 16) :
    ∃ b, encodeChar (Numeral.digit d) = [b] ∧ WritesHex d b := by
  have all : ∀ d : Fin 16, encodeChar (Numeral.digit d) =
      [if d.val < 10 then (48 + d.val).toUInt8 else (87 + d.val).toUInt8] := by decide
  refine ⟨_, all ⟨d, h⟩, ?_⟩
  split
  · next h10 => exact .digit h10
  · next h10 => exact .small (Nat.le_of_not_lt h10) h

/-- A control character is written by its number. -/
theorem writesChar_code {c : Char} (h : c.toNat < 0x20) :
    WritesChar c (encode
      ['\\', 'u', '0', '0', Numeral.digit (c.toNat / 16), Numeral.digit (c.toNat % 16)]) := by
  obtain ⟨a, ha, hwa⟩ := @writesHex_digit (c.toNat / 16) (by omega)
  obtain ⟨b, hb, hwb⟩ := @writesHex_digit (c.toNat % 16) (by omega)
  have he : encode ['\\', 'u', '0', '0', Numeral.digit (c.toNat / 16),
      Numeral.digit (c.toNat % 16)] = 92 :: 117 :: [48, 48, a, b] := by
    simp only [encode_cons, ha, hb]
    rfl
  have zero : WritesHex 0 48 := .digit (by decide)
  rw [he]
  refine .code (.intro (by omega) ?_ ?_ ?_ hwb)
  · rwa [show c.toNat / 4096 = 0 by omega]
  · rwa [show c.toNat / 256 % 16 = 0 by omega]
  · rwa [show c.toNat / 16 % 16 = c.toNat / 16 by omega]

theorem writesChar_escape (c : Char) : WritesChar c (encode (escapeChar c)) := by
  unfold escapeChar
  split
  · exact .short (b := 34) (by decide)
  · exact .short (b := 92) (by decide)
  · exact .short (b := 98) (by decide)
  · exact .short (b := 102) (by decide)
  · exact .short (b := 110) (by decide)
  · exact .short (b := 114) (by decide)
  · exact .short (b := 116) (by decide)
  · next hq hb _ _ _ _ _ =>
    split
    · next h => exact writesChar_code h
    · next h =>
      have he : encode [c] = encodeChar c := List.append_nil _
      rw [he]
      exact .plain hq hb (Nat.le_of_not_lt h)

theorem writesChars_escape (cs : List Char) : WritesChars cs (encode (cs.flatMap escapeChar)) := by
  induction cs with
  | nil => exact .nil
  | cons c cs ih =>
    rw [List.flatMap_cons, encode_append]
    exact .cons (writesChar_escape c) ih

theorem encode_textChars (s : String) :
    ∃ bs, encode (textChars s) = 34 :: bs ∧ WritesText s bs := by
  refine ⟨encode (s.toList.flatMap escapeChar ++ ['"']), rfl, ?_⟩
  rw [encode_append]
  exact .intro (writesChars_escape s.toList)

end text

section number

theorem digits_ne_nil (n : Nat) : Numeral.digits 10 n ≠ [] := by
  induction n using @Numeral.digits_induction 10 (by decide) with
  | one n h => simp [Numeral.digits_of_lt h]
  | more n h _ => simp [Numeral.digits_of_le (by decide) h]

theorem encode_digits (n : Nat) :
    WritesDigits (Literal.ofNat n) (encode (Numeral.digits 10 n)) := by
  have all : ∀ d : Fin 10, encodeChar (Numeral.digit d) = [digitByte d] := by decide
  have hd : (∀ d ∈ Literal.ofNat n, d < 10) ∧
      encode (Numeral.digits 10 n) = (Literal.ofNat n).map digitByte := by
    induction n using @Numeral.digits_induction 10 (by decide) with
    | one n h =>
      rw [Literal.ofNat, Numeral.digits_of_lt h]
      have := Numeral.digitValue_digit (d := n) (by omega)
      simp only [List.map_cons, List.map_nil, this, List.mem_singleton, forall_eq, h, true_and]
      exact (List.append_nil _).trans (all ⟨n, h⟩)
    | more n h ih =>
      have hm : n % 10 < 10 := Nat.mod_lt _ (by decide)
      have := Numeral.digitValue_digit (d := n % 10) (by omega)
      rw [Literal.ofNat, Numeral.digits_of_le (by decide) h, List.map_append, encode_append]
      simp only [List.map_cons, List.map_nil, this, List.map_append]
      refine ⟨?_, ?_⟩
      · intro d hd
        rcases List.mem_append.mp hd with hd | hd
        · exact ih.1 d hd
        · obtain rfl := List.mem_singleton.mp hd
          exact hm
      · rw [ih.2]
        exact congrArg _ ((List.append_nil _).trans (all ⟨n % 10, hm⟩))
  rw [hd.2]
  refine .intro ?_ hd.1
  rw [Literal.ofNat, ne_eq, List.map_eq_nil_iff]
  exact digits_ne_nil n

theorem isWhole_ofNat (n : Nat) : IsWhole (Literal.ofNat n) := by
  have head : 0 < n → (Literal.ofNat n).head? ≠ some 0 := by
    induction n using @Numeral.digits_induction 10 (by decide) with
    | one n h =>
      intro hn
      have := Numeral.digitValue_digit (d := n) (by omega)
      simp [Literal.ofNat, Numeral.digits_of_lt h, this]
      omega
    | more n h ih =>
      intro hn
      obtain ⟨d, ds, hd⟩ := List.exists_cons_of_ne_nil (digits_ne_nil (n / 10))
      have ih := ih (by omega)
      rw [Literal.ofNat, hd] at ih
      rw [Literal.ofNat, Numeral.digits_of_le (by decide) h, hd]
      exact ih
  rcases Nat.eq_zero_or_pos n with rfl | hn
  · refine .inl ?_
    rw [Literal.ofNat, Numeral.digits_of_lt (by decide)]
    rfl
  · exact .inr (head hn)

theorem encode_natural (n : Nat) :
    WritesLiteral ⟨Literal.ofNat n, none, none⟩ (encode (Numeral.digits 10 n)) := by
  have h := WritesLiteral.intro (isWhole_ofNat n) (encode_digits n) .absent .absent
  rwa [List.append_nil, List.append_nil] at h

end number

mutual

/-- The value as the grammar has it. -/
inductive Value.Says : Value → Term → Prop where
  | null : Value.Says (.scalar .null) .null
  | bool (b : Bool) : Value.Says (.scalar (.bool b)) (.bool b)
  | natural (n : Nat) : Value.Says (.natural n) (.number false ⟨Literal.ofNat n, none, none⟩)
  | negative (n : Nat) :
      Value.Says (.scalar (.number (.negative n))) (.number true ⟨Literal.ofNat n, none, none⟩)
  | text (s : String) : Value.Says (.text s) (.text s)
  | list {vs : List Value} {ts : List Term} : SaysItems vs ts → Value.Says (.list vs) (.list ts)
  | object {ms : List (String × Value)} {ts : List (String × Term)} : SaysMembers ms ts →
      Value.Says (.object ms) (.object ts)

inductive SaysItems : List Value → List Term → Prop where
  | nil : SaysItems [] []
  | cons {v : Value} {vs : List Value} {t : Term} {ts : List Term} : v.Says t → SaysItems vs ts →
      SaysItems (v :: vs) (t :: ts)

inductive SaysMembers : List (String × Value) → List (String × Term) → Prop where
  | nil : SaysMembers [] []
  | cons {key : String} {v : Value} {ms : List (String × Value)} {t : Term}
      {ts : List (String × Term)} : v.Says t → SaysMembers ms ts →
      SaysMembers ((key, v) :: ms) ((key, t) :: ts)

end

theorem writesValue_colon {t : Term} {bs : Bytes} (h : Writes t bs) : WritesValue t (58 :: bs) :=
  .intro blank_nil blank_nil h

mutual

theorem Value.Says.compact : ∀ {v : Value} {t : Term}, v.Says t → Writes t (encode v.compact)
  | _, _, .null => .null
  | _, _, .bool true => .yes
  | _, _, .bool false => .no
  | _, _, .natural n => .number (encode_natural n)
  | _, _, .negative n => .negative (encode_natural n)
  | _, _, .text s => by
    obtain ⟨bs, hs, hw⟩ := encode_textChars s
    change Writes _ (encode (textChars s))
    rw [hs]
    exact .text hw
  | _, _, .list .nil => .list (.nil blank_nil)
  | _, _, .list (.cons hv hvs) => by
    rw [Value.compact, encode_cons, encode_append]
    exact .list (.first blank_nil hv.compact hvs.compact)
  | _, _, .object .nil => .object (.nil blank_nil)
  | _, _, .object (@SaysMembers.cons key _ _ _ _ hv hms) => by
    obtain ⟨bs, hs, hw⟩ := encode_textChars key
    rw [Value.compact, encode_cons, encode_append, hs, encode_cons, encode_append]
    have := WritesMembers.first blank_nil hw (writesValue_colon hv.compact) hms.compact
    exact .object this

theorem SaysItems.compact : ∀ {vs : List Value} {ts : List Term}, SaysItems vs ts →
    WritesItems false ts (encode (compactItems vs))
  | _, _, .nil => .nil blank_nil
  | _, _, .cons hv hvs => by
    rw [compactItems, encode_cons, encode_append]
    exact .next blank_nil blank_nil hv.compact hvs.compact

theorem SaysMembers.compact : ∀ {ms : List (String × Value)} {ts : List (String × Term)},
    SaysMembers ms ts → WritesMembers false ts (encode (compactMembers ms))
  | _, _, .nil => .nil blank_nil
  | _, _, @SaysMembers.cons key _ _ _ _ hv hms => by
    obtain ⟨bs, hs, hw⟩ := encode_textChars key
    rw [compactMembers, encode_cons, encode_append, hs, encode_cons, encode_append]
    have := WritesMembers.next blank_nil blank_nil hw (writesValue_colon hv.compact) hms.compact
    exact this

end

theorem Value.Says.document {v : Value} {t : Term} (h : v.Says t) :
    Document t (Utf8.bytes v.render) := by
  have hd := Document.intro blank_nil h.compact blank_nil
  rw [List.nil_append, List.append_nil] at hd
  rwa [Utf8.bytes, Value.render, String.toList_ofList]

end PortShare.Json
