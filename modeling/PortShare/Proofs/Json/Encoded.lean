import PortShare.Proofs.Json.Grammar
import PortShare.Proofs.Utf8

/-! JSON is text: whatever writes a value is the UTF-8 of some characters, so that reading it as
text and writing the text again changes nothing. -/

namespace PortShare.Json

open Utf8 (encode encodeChar encode_append)

/-- The bytes are those of a text. -/
def IsEncoded (bs : Bytes) : Prop := ∃ cs, encode cs = bs

theorem IsEncoded.encode_decodeLossy {bs : Bytes} (h : IsEncoded bs) :
    encode (Utf8.decodeLossy bs) = bs := by
  obtain ⟨cs, rfl⟩ := h
  rw [Utf8.decodeLossy_encode]

theorem IsEncoded.append {bs bs' : Bytes} (h : IsEncoded bs) (h' : IsEncoded bs') :
    IsEncoded (bs ++ bs') := by
  obtain ⟨cs, rfl⟩ := h
  obtain ⟨cs', rfl⟩ := h'
  exact ⟨cs ++ cs', encode_append cs cs'⟩

theorem isEncoded_encodeChar (c : Char) : IsEncoded (encodeChar c) :=
  ⟨[c], List.append_nil _⟩

theorem isEncoded_byte {b : UInt8} (h : b.toNat < 128) : IsEncoded [b] := by
  have hb : (Char.ofNat b.toNat).toNat = b.toNat := by
    have all : ∀ n : Fin 128, (Char.ofNat n).toNat = n := by decide
    exact all ⟨b.toNat, h⟩
  have hc : encodeChar (Char.ofNat b.toNat) = [b] := by
    rw [encodeChar, hb]
    simp only [show b.toNat < 0x80 from h, if_true, Nat.toUInt8, UInt8.ofNat_toNat]
  exact hc ▸ isEncoded_encodeChar _

theorem IsEncoded.cons {b : UInt8} {bs : Bytes} (h : IsEncoded bs) (hb : b.toNat < 128) :
    IsEncoded (b :: bs) := (isEncoded_byte hb).append h

theorem isEncoded_of_ascii {bs : Bytes} (h : ∀ b ∈ bs, b.toNat < 128) : IsEncoded bs := by
  induction bs with
  | nil => exact ⟨[], rfl⟩
  | cons b bs ih =>
    rw [List.forall_mem_cons] at h
    exact (ih h.2).cons h.1

section parts

variable {bs : Bytes}

theorem Blank.isEncoded (h : Blank bs) : IsEncoded bs := by
  refine isEncoded_of_ascii fun b hb => ?_
  rcases h b hb with rfl | rfl | rfl | rfl <;> decide

theorem WritesDigits.isEncoded {ds : List Nat} (h : WritesDigits ds bs) : IsEncoded bs := by
  obtain ⟨-, hd⟩ := h
  refine isEncoded_of_ascii (List.forall_mem_map.mpr fun d hm => ?_)
  have all : ∀ d : Fin 10, (digitByte d).toNat < 128 := by decide
  exact all ⟨d, hd d hm⟩

theorem WritesLiteral.isEncoded {l : Literal} (h : WritesLiteral l bs) : IsEncoded bs := by
  obtain ⟨-, hwhole, hpoint, hpower⟩ := h
  refine hwhole.isEncoded.append (.append ?_ ?_)
  · cases hpoint with
    | absent => exact ⟨[], rfl⟩
    | point hd => exact hd.isEncoded.cons (by decide)
  · cases hpower with
    | absent => exact ⟨[], rfl⟩
    | bare he hd => exact hd.isEncoded.cons (by rcases he with rfl | rfl <;> decide)
    | plus he hd | minus he hd =>
      exact (hd.isEncoded.cons (by decide)).cons (by rcases he with rfl | rfl <;> decide)

theorem WritesHex.lt {d : Nat} {b : UInt8} (h : WritesHex d b) : b.toNat < 128 := by
  cases h with
  | digit hd | small _ hd | capital _ hd =>
    simp only [Nat.toUInt8, UInt8.toNat_ofNat']
    omega

theorem WritesQuad.isEncoded {n : Nat} (h : WritesQuad n bs) : IsEncoded bs := by
  obtain ⟨-, ha, hb, hc, hd⟩ := h
  refine isEncoded_of_ascii ?_
  simp only [List.forall_mem_cons, ha.lt, hb.lt, hc.lt, hd.lt, true_and]
  exact List.forall_mem_nil _

theorem WritesChar.isEncoded {c : Char} (h : WritesChar c bs) : IsEncoded bs := by
  cases h with
  | plain => exact isEncoded_encodeChar c
  | short hb =>
    have all : ∀ p ∈ shortEscapes, p.1.toNat < 128 := by decide
    exact (isEncoded_byte (all _ hb)).cons (by decide)
  | code hq => exact (hq.isEncoded.cons (by decide)).cons (by decide)
  | pair _ hh hl =>
    have hlow := (hl.isEncoded.cons (b := 117) (by decide)).cons (b := 92) (by decide)
    exact ((hh.isEncoded.append hlow).cons (by decide)).cons (by decide)

theorem WritesText.isEncoded {s : String} (h : WritesText s bs) : IsEncoded bs := by
  obtain ⟨h⟩ := h
  refine .append ?_ (isEncoded_byte (by decide))
  generalize s.toList = cs at h
  induction h with
  | nil => exact ⟨[], rfl⟩
  | cons hc _ ih => exact hc.isEncoded.append ih

end parts

mutual

theorem Writes.isEncoded : ∀ {t : Term} {bs : Bytes}, Writes t bs → IsEncoded bs
  | _, _, .null | _, _, .yes | _, _, .no => isEncoded_of_ascii (by simp)
  | _, _, .number h => h.isEncoded
  | _, _, .negative h => h.isEncoded.cons (by decide)
  | _, _, .text h => h.isEncoded.cons (by decide)
  | _, _, .list h => h.isEncoded.cons (by decide)
  | _, _, .object h => h.isEncoded.cons (by decide)

theorem WritesItems.isEncoded : ∀ {first : Bool} {ts : List Term} {bs : Bytes},
    WritesItems first ts bs → IsEncoded bs
  | _, _, _, .nil hb => hb.isEncoded.append (isEncoded_byte (by decide))
  | _, _, _, .first hb ht hts => hb.isEncoded.append (ht.isEncoded.append hts.isEncoded)
  | _, _, _, .next hb hb' ht hts => hb.isEncoded.append
      ((hb'.isEncoded.append (ht.isEncoded.append hts.isEncoded)).cons (by decide))

theorem WritesMembers.isEncoded : ∀ {first : Bool} {ms : List (String × Term)} {bs : Bytes},
    WritesMembers first ms bs → IsEncoded bs
  | _, _, _, .nil hb => hb.isEncoded.append (isEncoded_byte (by decide))
  | _, _, _, .first hb hk hv hms => hb.isEncoded.append
      ((hk.isEncoded.append (hv.isEncoded.append hms.isEncoded)).cons (by decide))
  | _, _, _, .next hb hb' hk hv hms => hb.isEncoded.append ((hb'.isEncoded.append
      ((hk.isEncoded.append (hv.isEncoded.append hms.isEncoded)).cons (by decide))).cons
        (by decide))

theorem WritesValue.isEncoded : ∀ {t : Term} {bs : Bytes}, WritesValue t bs → IsEncoded bs
  | _, _, .intro hb hb' ht =>
    hb.isEncoded.append ((hb'.isEncoded.append ht.isEncoded).cons (by decide))

end

theorem Document.isEncoded {t : Term} {bs : Bytes} (h : Document t bs) : IsEncoded bs := by
  obtain ⟨hb, ht, hb'⟩ := h
  exact hb.isEncoded.append (ht.isEncoded.append hb'.isEncoded)

end PortShare.Json
