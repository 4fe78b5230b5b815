import PortShare.Json.Record
import PortShare.Proofs.Json.Lexeme
import PortShare.Proofs.Json.Number

/-! What readers make of the values that they are for, in whichever way these are written. Each way
to build a reader comes with what the reader built accepts. -/

namespace PortShare.Json

/-- Bytes that begin with something that is no blank and ends no container. -/
def Begins (bs : Bytes) : Prop :=
  ∃ b tail, bs = b :: tail ∧ isBlank b = false ∧ b ≠ 93 ∧ b ≠ 125

theorem begins_cons {b : UInt8} (hb : isBlank b = false) (h93 : b ≠ 93) (h125 : b ≠ 125)
    (bs : Bytes) : Begins (b :: bs) := ⟨b, bs, rfl, hb, h93, h125⟩

theorem Writes.begins {t : Term} {bs : Bytes} (h : Writes t bs) : Begins bs := by
  cases h with
  | number h =>
    obtain ⟨b, tail, rfl, hb⟩ := h.eq_cons
    have other {c : UInt8} : isDigit c = false → b ≠ c := ne_of_isDigit hb
    refine begins_cons ?_ (other (by decide)) (other (by decide)) tail
    rw [← Bool.not_eq_true, isBlank_iff, not_or, not_or, not_or]
    exact ⟨other (by decide), other (by decide), other (by decide), other (by decide)⟩
  | _ => exact begins_cons (by decide) (by decide) (by decide) _

theorem Begins.append {bs : Bytes} (h : Begins bs) (rest : Bytes) : Begins (bs ++ rest) := by
  obtain ⟨b, tail, rfl, hb⟩ := h
  exact ⟨b, tail ++ rest, rfl, hb⟩

theorem Begins.skipBlank {blank bs : Bytes} (h : Begins bs) (hw : Blank blank) :
    skipBlank (blank ++ bs) = bs := by
  obtain ⟨b, tail, rfl, hb, -, -⟩ := h
  exact skipBlank_append_cons hw hb tail

theorem WritesItems.ends {ts : List Term} {bs : Bytes} (h : WritesItems false ts bs)
    (rest : Bytes) : Ends (bs ++ rest) := by
  cases h with
  | nil hw =>
    rw [List.append_assoc]
    exact ends_blank hw (ends_cons (by decide) (by decide) (by decide) (by decide) _)
  | next hw _ _ _ =>
    rw [List.append_assoc]
    exact ends_blank hw (ends_cons (by decide) (by decide) (by decide) (by decide) _)

theorem WritesMembers.ends {ms : List (String × Term)} {bs : Bytes} (h : WritesMembers false ms bs)
    (rest : Bytes) : Ends (bs ++ rest) := by
  cases h with
  | nil hw =>
    rw [List.append_assoc]
    exact ends_blank hw (ends_cons (by decide) (by decide) (by decide) (by decide) _)
  | next hw _ _ _ _ =>
    rw [List.append_assoc]
    exact ends_blank hw (ends_cons (by decide) (by decide) (by decide) (by decide) _)

namespace Reader

variable {α β : Type}

/-- The reader makes `a` of the value, in whichever way it is written. -/
def Accepts (r : Reader α) (t : Term) (a : α) : Prop :=
  ∀ blank bs rest, Blank blank → Writes t bs → Ends rest →
    r.run (blank ++ (bs ++ rest)) = .ok (a, rest)

theorem accepts_text (s : String) : text.Accepts (.text s) s := by
  intro blank bs rest hw h hr
  cases h with
  | text h =>
    change runText _ = _
    simp only [runText, List.cons_append,
      skipBlank_append_cons hw (show isBlank 34 = false by decide), if_true, h.readText]

theorem accepts_optionalText (s : String) : optionalText.Accepts (.text s) (some s) := by
  intro blank bs rest hw h hr
  have ht : runText (bs ++ rest) = .ok (s, rest) := accepts_text s [] bs rest nofun h hr
  cases h with
  | text h =>
    change runOptionalText _ = _
    rw [List.cons_append] at ht
    simp only [runOptionalText, List.cons_append,
      skipBlank_append_cons hw (show isBlank 34 = false by decide),
      show (34 : UInt8) ≠ 110 by decide, if_false, ht]
    rfl

theorem accepts_optionalText_null : optionalText.Accepts .null none := by
  intro blank bs rest hw h hr
  cases h
  change runOptionalText _ = _
  simp only [runOptionalText, List.cons_append, List.nil_append,
    skipBlank_append_cons hw (show isBlank 110 = false by decide), if_true, word]
  rfl

theorem accepts_unsigned16 {ds : List Nat} (h : Literal.value ds < 65536) :
    unsigned16.Accepts (.number false ⟨ds, none, none⟩) (Literal.value ds).toUInt16 := by
  intro blank bs rest hw ht hr
  have hb := ht.begins.append rest
  cases ht with
  | number hl =>
    have hn := (readNumber_eq_ok_iff (.number hl) hr).mpr
      ⟨Literal.number_of_value_lt (show Literal.value ds < 18446744073709551616 by omega), rfl⟩
    obtain ⟨b, tail, rfl, hd⟩ := hl.eq_cons
    change runUnsigned16 _ = _
    rw [List.cons_append] at hn hb ⊢
    simp only [runUnsigned16, hb.skipBlank hw, hd, or_true, if_true, hn, h]

theorem Accepts.map {r : Reader α} {t : Term} {a : α} (h : r.Accepts t a) (f : α → β) :
    (r.map f).Accepts t (f a) := by
  intro blank bs rest hw ht hr
  change runMap f r _ = _
  rw [runMap, h blank bs rest hw ht hr]
  rfl

theorem Accepts.refine {r : Reader α} {t : Term} {a : α} {b : β} {f : α → Except Cause β}
    (h : r.Accepts t a) (hf : f a = .ok b) : (r.refine f).Accepts t b := by
  intro blank bs rest hw ht hr
  change runRefine f r _ = _
  simp only [runRefine, h blank bs rest hw ht hr, hf]

section list

theorem nextItem_end {first : Bool} {blank : Bytes} (hw : Blank blank) (rest : Bytes) :
    nextItem first (blank ++ 93 :: rest) = .ok (false, rest) := by
  simp only [nextItem, skipBlank_append_cons hw (show isBlank 93 = false by decide), if_true]

theorem nextItem_first {blank bs : Bytes} (hw : Blank blank) (hb : Begins bs) :
    nextItem true (blank ++ bs) = .ok (true, bs) := by
  have hs := hb.skipBlank hw
  obtain ⟨b, tail, rfl, -, h93, -⟩ := hb
  simp only [nextItem, hs, h93, if_false, if_true]

theorem nextItem_next {blank blank' bs : Bytes} (hw : Blank blank) (hw' : Blank blank')
    (hb : Begins bs) : nextItem false (blank ++ 44 :: (blank' ++ bs)) = .ok (true, bs) := by
  have hs := hb.skipBlank hw'
  obtain ⟨b, tail, rfl, -, h93, -⟩ := hb
  simp only [nextItem, skipBlank_append_cons hw (show isBlank 44 = false by decide),
    show (44 : UInt8) ≠ 93 by decide, if_true, hs, h93, if_false, Bool.false_eq_true]

theorem items_of_end {item : Reader α} {first : Bool} {bs rest : Bytes}
    (h : nextItem first bs = .ok (false, rest)) : items item first bs = .ok ([], rest) := by
  rw [items]
  split
  · simp_all
  · simp_all
  · simp_all

theorem items_of_next {item : Reader α} {first : Bool} {bs bs' after : Bytes} {as : List α}
    (hn : nextItem first bs = .ok (true, bs')) :
    items item first bs = .ok (as, after) ↔
      ∃ a rest as', item.run bs' = .ok (a, rest) ∧ items item false rest = .ok (as', after) ∧
        a :: as' = as := by
  rw [items]
  split
  · simp_all
  · simp_all
  · next hn' =>
    rw [hn] at hn'
    cases hn'
    split
    · simp_all
    · next a rest ha =>
      cases hi : items item false rest with
      | error e =>
        constructor
        · intro h
          cases h
        · rintro ⟨a', rest', as', ha', hi', -⟩
          rw [ha] at ha'
          cases ha'
          rw [hi] at hi'
          cases hi'
      | ok r =>
        constructor
        · intro h
          cases h
          exact ⟨a, rest, r.1, ha, hi, rfl⟩
        · rintro ⟨a', rest', as', ha', hi', rfl⟩
          rw [ha] at ha'
          cases ha'
          rw [hi] at hi'
          cases hi'
          rfl

end list

end Reader

end PortShare.Json
