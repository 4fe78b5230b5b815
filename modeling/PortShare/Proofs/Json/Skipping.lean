import PortShare.Proofs.Json.Members

/-! A value that nobody asked for is passed over whole, whatever it is and however deep it goes:
what is left is what stood behind it. -/

namespace PortShare.Json

section text

theorem skipText_of_escape {bs rest : Bytes} (h : skipEscape bs = .ok rest) :
    skipText (92 :: bs) = skipText rest := by
  rw [skipText]
  simp only [show (92 : UInt8) ≠ 34 by decide, if_false, if_true]
  split <;> simp_all

/-- Bytes that neither end a text nor begin an escape. -/
theorem skipText_append {bs : Bytes} (h : ∀ b ∈ bs, b ≠ 34 ∧ b ≠ 92 ∧ ¬ b < 32) (rest : Bytes) :
    skipText (bs ++ rest) = skipText rest := by
  induction bs with
  | nil => rfl
  | cons b bs ih =>
    obtain ⟨⟨h34, h92, h32⟩, h⟩ := List.forall_mem_cons.mp h
    rw [List.cons_append, skipText]
    simp only [h34, h92, h32, if_false]
    exact ih h

theorem skipText_of_plain {c : Char} (hq : c ≠ '"') (hb : c ≠ '\\') (hc : 32 ≤ c.toNat)
    (rest : Bytes) : skipText (Utf8.encodeChar c ++ rest) = skipText rest := by
  refine skipText_append ?_ rest
  have h32 {b : UInt8} (h : 32 ≤ b.toNat) : ¬ b < 32 := by
    rw [UInt8.lt_iff_toNat_lt]
    exact Nat.not_lt.mpr h
  rcases Utf8.encodeChar_bytes c with ⟨b, he, hn⟩ | h
  · rw [he, List.forall_mem_singleton]
    refine ⟨?_, ?_, h32 (by omega)⟩
    · rintro rfl
      exact hq (Char.toNat_inj.mp hn.symm)
    · rintro rfl
      exact hb (Char.toNat_inj.mp hn.symm)
  · intro b hm
    have := h b hm
    refine ⟨?_, ?_, h32 (by omega)⟩
    · rintro rfl
      exact absurd this (by decide)
    · rintro rfl
      exact absurd this (by decide)

theorem WritesQuad.skipEscape {n : Nat} {quad : Bytes} (h : WritesQuad n quad) (rest : Bytes) :
    skipEscape (117 :: (quad ++ rest)) = .ok rest := by
  rw [Json.skipEscape, if_pos rfl, h.hexQuad]
  rfl

theorem skipEscape_of_short {b : UInt8} {c : Char} (h : (b, c) ∈ shortEscapes) (rest : Bytes) :
    skipEscape (b :: rest) = .ok rest := by
  obtain ⟨hu, hs⟩ := shortEscape?_of_mem h
  rw [skipEscape, if_neg hu, hs]
  rfl

theorem WritesChar.skipText {c : Char} {bs : Bytes} (h : WritesChar c bs) (rest : Bytes) :
    skipText (bs ++ rest) = skipText rest := by
  cases h with
  | plain hq hb hc => exact skipText_of_plain hq hb hc rest
  | short h => exact skipText_of_escape (skipEscape_of_short h rest)
  | code h => exact skipText_of_escape (h.skipEscape rest)
  | pair _ hh hl =>
    rw [List.cons_append, List.cons_append, List.append_assoc]
    exact (skipText_of_escape (hh.skipEscape _)).trans (skipText_of_escape (hl.skipEscape rest))

theorem WritesText.skipText {s : String} {bs : Bytes} (h : WritesText s bs) (rest : Bytes) :
    skipText (bs ++ rest) = .ok rest := by
  obtain ⟨h⟩ := h
  have passed {cs : List Char} {bs : Bytes} (h : WritesChars cs bs) (rest : Bytes) :
      Json.skipText (bs ++ rest) = Json.skipText rest := by
    induction h with
    | nil => rfl
    | cons hc _ ih => rw [List.append_assoc, hc.skipText, ih]
  rw [List.append_assoc, passed h, List.cons_append, Json.skipText, if_pos rfl]
  rfl

/-- A key is passed over with its colon. -/
theorem skipKey_of_writes {key : String} {blank blank' k : Bytes} (hw : Blank blank)
    (hk : WritesText key k) (hw' : Blank blank') (rest : Bytes) :
    skipKey (blank ++ 34 :: (k ++ (blank' ++ 58 :: rest))) = .ok rest := by
  simp only [skipKey, skipBlank_append_cons hw (show isBlank 34 = false by decide), if_true,
    hk.skipText, skipBlank_append_cons hw' (show isBlank 58 = false by decide)]

end text

section number

theorem skipNumber_of_writes {l : Literal} {bs rest : Bytes} (h : WritesLiteral l bs)
    (hr : Ends rest) :
    skipNumber (bs ++ rest) = .ok rest ∧ skipNumber (45 :: (bs ++ rest)) = .ok rest := by
  have hread : Literal.read .invalidNumber (bs ++ rest) = .ok (l, rest) :=
    Literal.read_of_writes h hr
  have hneg : skipNumber (45 :: (bs ++ rest)) = .ok rest := by
    rw [skipNumber, if_pos rfl, hread]
    rfl
  refine ⟨?_, hneg⟩
  obtain ⟨b, tail, rfl, hb⟩ := h.eq_cons
  have h45 : b ≠ 45 := ne_of_isDigit hb (by decide)
  rw [List.cons_append] at hread ⊢
  rw [skipNumber, if_neg h45, hread]
  rfl

end number

section steps

variable {opened : List Container} {bs inner rest after : Bytes}

theorem skipOpen_scalar {b : UInt8} (hs : skipBlank bs = b :: rest) (h91 : b ≠ 91)
    (h123 : b ≠ 123) (hv : skipScalar (b :: rest) = .ok after) :
    skipOpen true opened bs = skipOpen false opened after := by
  rw [skipOpen]
  split
  · simp_all
  · simp_all
    split <;> simp_all

theorem skipOpen_list_nil (hs : skipBlank bs = 91 :: inner) (hi : skipBlank inner = 93 :: rest) :
    skipOpen true opened bs = skipOpen false opened rest := by
  rw [skipOpen]
  split
  · simp_all
  · simp_all
    split <;> simp_all

theorem skipOpen_list {b : UInt8} (hs : skipBlank bs = 91 :: inner)
    (hi : skipBlank inner = b :: rest) (h93 : b ≠ 93) :
    skipOpen true opened bs = skipOpen true (.list :: opened) (b :: rest) := by
  rw [skipOpen]
  split
  · simp_all
  · simp_all
    split <;> simp_all

theorem skipOpen_object_nil (hs : skipBlank bs = 123 :: inner)
    (hi : skipBlank inner = 125 :: rest) :
    skipOpen true opened bs = skipOpen false opened rest := by
  rw [skipOpen]
  split
  · simp_all
  · simp_all
    split <;> simp_all

theorem skipOpen_object {b : UInt8} (hs : skipBlank bs = 123 :: inner)
    (hi : skipBlank inner = b :: rest) (h125 : b ≠ 125) (hk : skipKey (b :: rest) = .ok after) :
    skipOpen true opened bs = skipOpen true (.object :: opened) after := by
  rw [skipOpen]
  split
  · simp_all
  · simp_all
    split
    · simp_all
    · split
      · simp_all
      · simp_all
        split <;> simp_all

theorem skipOpen_list_end (hs : skipBlank bs = 93 :: rest) :
    skipOpen false (.list :: opened) bs = skipOpen false opened rest := by
  rw [skipOpen]
  split <;> simp_all

theorem skipOpen_list_next (hs : skipBlank bs = 44 :: rest) :
    skipOpen false (.list :: opened) bs = skipOpen true (.list :: opened) rest := by
  rw [skipOpen]
  split <;> simp_all

theorem skipOpen_object_end (hs : skipBlank bs = 125 :: rest) :
    skipOpen false (.object :: opened) bs = skipOpen false opened rest := by
  rw [skipOpen]
  split <;> simp_all

theorem skipOpen_object_next (hs : skipBlank bs = 44 :: rest) (hk : skipKey rest = .ok after) :
    skipOpen false (.object :: opened) bs = skipOpen true (.object :: opened) after := by
  rw [skipOpen]
  split
  · simp_all
  · simp_all
    split <;> simp_all

end steps

theorem skipOpen_number {l : Literal} {bs blank rest : Bytes} (h : WritesLiteral l bs)
    (opened : List Container) (hw : Blank blank) (hr : Ends rest) :
    skipOpen true opened (blank ++ (bs ++ rest)) = skipOpen false opened rest ∧
    skipOpen true opened (blank ++ (45 :: bs ++ rest)) = skipOpen false opened rest := by
  obtain ⟨hp, hn⟩ := skipNumber_of_writes h hr
  constructor
  · have hb := (Writes.number h).begins.append rest
    obtain ⟨b, tail, rfl, hd⟩ := h.eq_cons
    have other {c : UInt8} : isDigit c = false → b ≠ c := ne_of_isDigit hd
    rw [List.cons_append] at hp hb ⊢
    refine skipOpen_scalar (hb.skipBlank hw) (other (by decide)) (other (by decide)) ?_
    simp only [skipScalar, other (c := 110) (by decide), other (c := 116) (by decide),
      other (c := 102) (by decide), hd, or_true, if_false, if_true, hp]
  · refine skipOpen_scalar (skipBlank_append_cons hw (by decide) _) (by decide) (by decide) ?_
    exact hn

mutual

/-- Behind a value, whatever is open is as it was. -/
theorem Writes.skipOpen : ∀ {t : Term} {bs : Bytes}, Writes t bs →
    ∀ opened {blank rest : Bytes}, Blank blank → Ends rest →
      skipOpen true opened (blank ++ (bs ++ rest)) = Json.skipOpen false opened rest
  | _, _, .null, _, _, rest, hw, _ =>
    skipOpen_scalar (skipBlank_append_cons hw (by decide) _) (by decide) (by decide)
      (show skipScalar (110 :: 117 :: 108 :: 108 :: rest) = _ from rfl)
  | _, _, .yes, _, _, rest, hw, _ =>
    skipOpen_scalar (skipBlank_append_cons hw (by decide) _) (by decide) (by decide)
      (show skipScalar (116 :: 114 :: 117 :: 101 :: rest) = _ from rfl)
  | _, _, .no, _, _, rest, hw, _ =>
    skipOpen_scalar (skipBlank_append_cons hw (by decide) _) (by decide) (by decide)
      (show skipScalar (102 :: 97 :: 108 :: 115 :: 101 :: rest) = _ from rfl)
  | _, _, .number h, opened, _, _, hw, hr => (skipOpen_number h opened hw hr).1
  | _, _, .negative h, opened, _, _, hw, hr => (skipOpen_number h opened hw hr).2
  | _, _, .text h, _, _, rest, hw, _ =>
    skipOpen_scalar (skipBlank_append_cons hw (by decide) _) (by decide) (by decide)
      (show skipScalar (34 :: (_ ++ rest)) = _ from h.skipText rest)
  | _, _, .list (.nil hb), _, _, rest, hw, _ => by
    refine skipOpen_list_nil (skipBlank_append_cons hw (by decide) _) ?_
    rw [List.append_eq, List.append_assoc]
    exact skipBlank_append_cons hb (by decide) _
  -- the first item is passed over with the list open, and the items behind it close the list
  | _, _, .list (@WritesItems.first _ _ _ _ tail hb ht hts), opened, _, rest, hw, _ => by
    obtain ⟨b, bs, hbs, hblank, h93, -⟩ := ht.begins.append (tail ++ rest)
    rw [List.cons_append, List.append_assoc, List.append_assoc, hbs,
      skipOpen_list (skipBlank_append_cons hw (by decide) _)
        (skipBlank_append_cons hb hblank _) h93, ← hbs]
    exact (ht.skipOpen (.list :: opened) blank_nil (hts.ends rest)).trans (hts.skipOpen rfl _ _)
  | _, _, .object (.nil hb), _, _, rest, hw, _ => by
    refine skipOpen_object_nil (skipBlank_append_cons hw (by decide) _) ?_
    rw [List.append_eq, List.append_assoc]
    exact skipBlank_append_cons hb (by decide) _
  | _, _, .object (.first hb hk (.intro hc hv ht) hms), opened, _, rest, hw, _ => by
    have hkey := skipKey_of_writes blank_nil hk hc
    simp only [List.cons_append, List.append_assoc] at hkey ⊢
    rw [skipOpen_object (skipBlank_append_cons hw (by decide) _)
      (skipBlank_append_cons hb (by decide) _) (by decide) (hkey _)]
    exact (ht.skipOpen (.object :: opened) hv (hms.ends rest)).trans (hms.skipOpen rfl _ _)

theorem WritesItems.skipOpen : ∀ {first : Bool} {ts : List Term} {bs : Bytes},
    WritesItems first ts bs → first = false → ∀ opened rest,
      skipOpen false (.list :: opened) (bs ++ rest) = Json.skipOpen false opened rest
  | _, _, _, .nil hb, _, opened, rest => by
    rw [List.append_assoc]
    exact skipOpen_list_end (skipBlank_append_cons hb (by decide) _)
  | _, _, _, .next hb hb' ht hts, _, opened, rest => by
    simp only [List.cons_append, List.append_assoc]
    rw [skipOpen_list_next (skipBlank_append_cons hb (by decide) _)]
    exact (ht.skipOpen (.list :: opened) hb' (hts.ends rest)).trans (hts.skipOpen rfl _ _)

theorem WritesMembers.skipOpen : ∀ {first : Bool} {ms : List (String × Term)} {bs : Bytes},
    WritesMembers first ms bs → first = false → ∀ opened rest,
      skipOpen false (.object :: opened) (bs ++ rest) = Json.skipOpen false opened rest
  | _, _, _, .nil hb, _, opened, rest => by
    rw [List.append_assoc]
    exact skipOpen_object_end (skipBlank_append_cons hb (by decide) _)
  | _, _, _, .next hb hb' hk (.intro hc hv ht) hms, _, opened, rest => by
    simp only [List.cons_append, List.append_assoc]
    rw [skipOpen_object_next (skipBlank_append_cons hb (by decide) _)
      (skipKey_of_writes hb' hk hc _)]
    exact (ht.skipOpen (.object :: opened) hv (hms.ends rest)).trans (hms.skipOpen rfl _ _)

end

theorem Writes.skipValue {t : Term} {blank bs rest : Bytes} (h : Writes t bs) (hw : Blank blank)
    (hr : Ends rest) : skipValue (blank ++ (bs ++ rest)) = .ok rest := by
  rw [Json.skipValue, h.skipOpen [] hw hr, Json.skipOpen]

end PortShare.Json
