import PortShare.Proofs.Json.Grammar
import PortShare.Proofs.Utf8

/-! Texts and blanks are read as the grammar has them: whichever way each character of a text is
written, the text is read, up to its closing quote and no further. -/

namespace PortShare.Json

theorem isBlank_iff {b : UInt8} : isBlank b = true ↔ b = 32 ∨ b = 10 ∨ b = 13 ∨ b = 9 := by
  simp only [isBlank, Bool.or_eq_true, beq_iff_eq, or_assoc]

theorem skipBlank_append {blank : Bytes} (h : Blank blank) (bs : Bytes) :
    skipBlank (blank ++ bs) = skipBlank bs := by
  induction blank with
  | nil => rfl
  | cons b blank ih =>
    have hb : isBlank b = true := isBlank_iff.mpr (h b (by simp))
    rw [List.cons_append, skipBlank, List.dropWhile_cons_of_pos hb]
    exact ih fun c hc => h c (by simp [hc])

theorem skipBlank_eq_nil {blank : Bytes} (h : Blank blank) : skipBlank blank = [] := by
  have := skipBlank_append h []
  rwa [List.append_nil] at this

theorem skipBlank_cons {b : UInt8} (h : isBlank b = false) (bs : Bytes) :
    skipBlank (b :: bs) = b :: bs :=
  List.dropWhile_cons_of_neg (by rw [h]; decide)

theorem skipBlank_append_cons {blank : Bytes} {b : UInt8} (h : Blank blank)
    (hb : isBlank b = false) (bs : Bytes) : skipBlank (blank ++ b :: bs) = b :: bs := by
  rw [skipBlank_append h, skipBlank_cons hb]

theorem WritesHex.hexDigit? {d : Nat} {b : UInt8} (h : WritesHex d b) : hexDigit? b = some d := by
  have digits : ∀ d : Fin 10, Json.hexDigit? (48 + d.val).toUInt8 = some d.val := by decide
  have small : ∀ d : Fin 6, Json.hexDigit? (97 + d.val).toUInt8 = some (10 + d.val) := by decide
  have capital : ∀ d : Fin 6, Json.hexDigit? (65 + d.val).toUInt8 = some (10 + d.val) := by decide
  cases h with
  | digit h => exact digits ⟨d, h⟩
  | small h h' =>
    obtain ⟨k, rfl⟩ := Nat.exists_eq_add_of_le h
    rw [← Nat.add_assoc]
    exact small ⟨k, by omega⟩
  | capital h h' =>
    obtain ⟨k, rfl⟩ := Nat.exists_eq_add_of_le h
    rw [← Nat.add_assoc]
    exact capital ⟨k, by omega⟩

theorem WritesQuad.hexQuad {n : Nat} {quad : Bytes} (h : WritesQuad n quad) (rest : Bytes) :
    hexQuad (quad ++ rest) = .ok (n, rest) := by
  obtain ⟨hn, ha, hb, hc, hd⟩ := h
  simp only [List.cons_append, List.nil_append, Json.hexQuad, ha.hexDigit?, hb.hexDigit?,
    hc.hexDigit?, hd.hexDigit?]
  have : n / 4096 * 4096 + n / 256 % 16 * 256 + n / 16 % 16 * 16 + n % 16 = n := by omega
  rw [this]

theorem hexEscape_of_code {c : Char} {quad : Bytes} (h : WritesQuad c.toNat quad) (rest : Bytes) :
    hexEscape (quad ++ rest) = .ok (c, rest) := by
  have hc := Utf8.toNat_lt c
  rw [hexEscape, h.hexQuad]
  simp only
  rw [if_neg (by omega), if_neg (by omega), Char.ofNat_toNat]

theorem hexEscape_of_pair {c : Char} {high low : Bytes} (h : 0x10000 ≤ c.toNat)
    (hh : WritesQuad (0xD800 + (c.toNat - 0x10000) / 0x400) high)
    (hl : WritesQuad (0xDC00 + c.toNat % 0x400) low) (rest : Bytes) :
    hexEscape (high ++ 92 :: 117 :: (low ++ rest)) = .ok (c, rest) := by
  have hc := Utf8.toNat_lt c
  have hlow : lowHalf (0xD800 + (c.toNat - 0x10000) / 0x400) (92 :: 117 :: (low ++ rest)) =
      .ok (c, rest) := by
    simp only [lowHalf, hl.hexQuad, ne_eq, not_true_eq_false, if_false]
    have hj : 0x10000 + (0xD800 + (c.toNat - 0x10000) / 0x400 - 0xD800) * 0x400 +
        (0xDC00 + c.toNat % 0x400 - 0xDC00) = c.toNat := by omega
    rw [if_pos (by omega), joinPair, hj, Char.ofNat_toNat]
  rw [hexEscape, hh.hexQuad]
  simp only
  rw [if_neg (by omega), if_pos (by omega), hlow]

theorem shortEscape?_of_mem {b : UInt8} {c : Char} (h : (b, c) ∈ shortEscapes) :
    b ≠ 117 ∧ shortEscape? b = some c := by
  have all : ∀ e ∈ shortEscapes, e.1 ≠ 117 ∧ shortEscape? e.1 = some e.2 := by decide
  exact all _ h

theorem escape_of_short {b : UInt8} {c : Char} (h : (b, c) ∈ shortEscapes) (rest : Bytes) :
    escape (b :: rest) = .ok (c, rest) := by
  obtain ⟨hu, hs⟩ := shortEscape?_of_mem h
  rw [escape, if_neg hu, hs]

theorem escape_of_code (bs : Bytes) : escape (117 :: bs) = hexEscape bs := by
  rw [escape, if_pos rfl]

theorem scanText_of_escape {bs rest : Bytes} {c : Char} (h : escape bs = .ok (c, rest)) :
    scanText (92 :: bs) = (scanText rest).map (Scanned.push c) := by
  rw [scanText]
  simp only [show (92 : UInt8) ≠ 34 by decide, if_false, if_true]
  split
  · next h' =>
    rw [h] at h'
    cases h'
  · next h' =>
    rw [h] at h'
    cases h'
    cases scanText rest <;> rfl

theorem scanText_of_next {b : UInt8} {c : Char} {bs rest : Bytes} (h34 : b ≠ 34) (h92 : b ≠ 92)
    (h32 : ¬ b < 32) (h : Utf8.next (b :: bs) = some (c, rest)) :
    scanText (b :: bs) = (scanText rest).map (Scanned.push c) := by
  rw [scanText]
  simp only [h34, h92, h32, if_false]
  split
  · next h' =>
    rw [h] at h'
    cases h'
    cases scanText rest <;> rfl
  · next h' =>
    rw [h] at h'
    cases h'

theorem scanText_of_plain {c : Char} (hq : c ≠ '"') (hb : c ≠ '\\') (hc : 32 ≤ c.toNat)
    (rest : Bytes) :
    scanText (Utf8.encodeChar c ++ rest) = (scanText rest).map (Scanned.push c) := by
  obtain ⟨b, tail, he, hbyte⟩ := Utf8.encodeChar_eq_cons c
  have hn := Utf8.next_encodeChar c rest
  rw [he, List.cons_append] at hn ⊢
  -- the first byte is none of those that end a text, begin an escape or are refused
  have other {d : Char} (hd : d.toNat < 0x80) (h : c ≠ d) : b.toNat ≠ d.toNat := by
    intro hbd
    have : c.toNat = d.toNat := by omega
    exact h (Char.toNat_inj.mp this)
  have h34 : b ≠ 34 := fun h => other (d := '"') (by decide) hq (by rw [h]; rfl)
  have h92 : b ≠ 92 := fun h => other (d := '\\') (by decide) hb (by rw [h]; rfl)
  have h32 : ¬ b < 32 := by
    rw [UInt8.lt_iff_toNat_lt]
    have : (32 : UInt8).toNat = 32 := rfl
    omega
  exact scanText_of_next h34 h92 h32 hn

theorem WritesChar.scanText {c : Char} {bs : Bytes} (h : WritesChar c bs) (rest : Bytes) :
    scanText (bs ++ rest) = (scanText rest).map (Scanned.push c) := by
  cases h with
  | plain hq hb hc => exact scanText_of_plain hq hb hc rest
  | short h => exact scanText_of_escape (escape_of_short h rest)
  | code h =>
    refine scanText_of_escape ((escape_of_code _).trans ?_)
    exact hexEscape_of_code h rest
  | pair hc hh hl =>
    refine scanText_of_escape ((escape_of_code _).trans ?_)
    rw [List.append_eq, List.append_assoc]
    exact hexEscape_of_pair hc hh hl rest

theorem WritesChars.scanText {cs : List Char} {bs : Bytes} (h : WritesChars cs bs)
    (rest : Bytes) : ∃ size, scanText (bs ++ 34 :: rest) = .ok ⟨cs, size, none, rest⟩ := by
  induction h with
  | nil => exact ⟨0, by rw [List.nil_append, Json.scanText]; rfl⟩
  | cons hc _ ih =>
    obtain ⟨size, ih⟩ := ih
    rw [List.append_assoc, hc.scanText, ih]
    exact ⟨_, rfl⟩

theorem WritesText.readText {s : String} {bs : Bytes} (h : WritesText s bs) (rest : Bytes) :
    readText (bs ++ rest) = .ok (s, rest) := by
  obtain ⟨h⟩ := h
  obtain ⟨size, hs⟩ := h.scanText rest
  rw [List.append_assoc, List.cons_append, List.nil_append, Json.readText, hs]
  simp only [String.ofList_toList]

end PortShare.Json
