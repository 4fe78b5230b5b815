import PortShare.Proofs.Numeral
import PortShare.Proofs.Utf8
import PortShare.Url.Percent

/-! Percent-encoding read back: where the sign itself is encoded, a text is read off what is written
for it, so that different texts are written differently. -/

namespace PortShare.Url

theorem hexCapital_spec {n : Nat} (h : n < 16) : Numeral.isDigitIn 16 (hexCapital n) = true ∧
    Numeral.digitValue (hexCapital n) = n ∧ (hexCapital n).isAlphanum = true := by
  have all : ∀ n : Fin 16, Numeral.isDigitIn 16 (hexCapital n) = true ∧
      Numeral.digitValue (hexCapital n) = n ∧ (hexCapital n).isAlphanum = true := by decide
  exact all ⟨n, h⟩

theorem percentDecode_percentByte (b : UInt8) (rest : List Char) :
    percentDecode (percentByte b ++ rest) = b :: percentDecode rest := by
  have hb := b.toNat_lt
  obtain ⟨hhigh, hhigh', -⟩ := @hexCapital_spec (b.toNat / 16) (by omega)
  obtain ⟨hlow, hlow', -⟩ := @hexCapital_spec (b.toNat % 16) (by omega)
  simp only [percentByte, List.cons_append, List.nil_append, percentDecode, hhigh, hlow,
    Bool.and_self, if_true, hhigh', hlow', Nat.div_add_mod']
  rw [Nat.toUInt8, UInt8.ofNat_toNat]

theorem percentDecode_percentBytes (bs : Bytes) (rest : List Char) :
    percentDecode (bs.flatMap percentByte ++ rest) = bs ++ percentDecode rest := by
  induction bs with
  | nil => rfl
  | cons b bs ih =>
    rw [List.flatMap_cons, List.append_assoc, percentDecode_percentByte, ih, List.cons_append]

theorem percentDecode_cons {c : Char} (h : c ≠ '%') (cs : List Char) :
    percentDecode (c :: cs) = Utf8.encodeChar c ++ percentDecode cs := by
  match cs with
  | [] => rw [percentDecode]; simp
  | [a] => rw [percentDecode]; simp
  | a :: b :: cs => rw [percentDecode]; simp [h]

theorem percentDecode_percentEncode {reserved : List Char} (h : '%' ∈ reserved)
    (cs rest : List Char) :
    percentDecode (percentEncode reserved cs ++ rest) = Utf8.encode cs ++ percentDecode rest := by
  induction cs with
  | nil => rfl
  | cons c cs ih =>
    rw [percentEncode, List.flatMap_cons, List.append_assoc, Utf8.encode_cons, List.append_assoc,
      ← ih]
    split
    · next hc =>
      have hne : c ≠ '%' := by
        rintro rfl
        simp [h] at hc
      exact percentDecode_cons hne _
    · exact percentDecode_percentBytes _ _

/-- Where the percent sign is encoded, different texts are written differently. -/
theorem percentEncode_inj {reserved : List Char} (h : '%' ∈ reserved) {cs ds : List Char} :
    percentEncode reserved cs = percentEncode reserved ds ↔ cs = ds := by
  refine ⟨fun he => ?_, fun he => by rw [he]⟩
  have hc := percentDecode_percentEncode h cs []
  rw [he, percentDecode_percentEncode h ds []] at hc
  exact Utf8.encode_inj.mp (List.append_cancel_right hc.symm)

/-- A byte is written with a percent sign and two digits. -/
theorem mem_percentByte {b : UInt8} {c : Char} (h : c ∈ percentByte b) :
    c = '%' ∨ c.isAlphanum = true := by
  have hb := b.toNat_lt
  obtain ⟨-, -, hhigh⟩ := @hexCapital_spec (b.toNat / 16) (by omega)
  obtain ⟨-, -, hlow⟩ := @hexCapital_spec (b.toNat % 16) (by omega)
  simp only [percentByte, List.mem_cons, List.not_mem_nil, or_false] at h
  rcases h with rfl | rfl | rfl
  · exact .inl rfl
  · exact .inr hhigh
  · exact .inr hlow

/-- What is written is plain and not reserved, or belongs to the number of a byte. -/
theorem mem_percentEncode {reserved : List Char} {cs : List Char} {c : Char}
    (h : c ∈ percentEncode reserved cs) : c ∉ reserved ∨ c = '%' ∨ c.isAlphanum = true := by
  obtain ⟨d, -, hc⟩ := List.mem_flatMap.mp h
  split at hc
  · next hd =>
    obtain rfl := List.mem_singleton.mp hc
    simp only [Bool.and_eq_true, Bool.not_eq_true', List.contains_eq_mem, decide_eq_false_iff_not]
      at hd
    exact .inl hd.2
  · obtain ⟨b, -, hc⟩ := List.mem_flatMap.mp hc
    exact .inr (mem_percentByte hc)

/-- A reserved sign does not stand in what is written, if the numbers of bytes do not use it. -/
theorem not_mem_percentEncode {reserved : List Char} {c : Char} (hr : c ∈ reserved) (hp : c ≠ '%')
    (ha : c.isAlphanum = false) (cs : List Char) : c ∉ percentEncode reserved cs := by
  intro h
  rcases mem_percentEncode h with h | h | h
  · exact h hr
  · exact hp h
  · rw [ha] at h
    cases h

theorem isPlain_of_alphanum {c : Char} (h : c.isAlphanum = true) : isPlain c = true := by
  unfold Char.isAlphanum Char.isAlpha Char.isUpper Char.isLower Char.isDigit at h
  simp only [Bool.or_eq_true, Bool.and_eq_true, decide_eq_true_eq, ge_iff_le,
    UInt32.le_iff_toNat_le] at h
  have : c.toNat = c.val.toNat := rfl
  have : 'A'.val.toNat = 65 := rfl
  have : 'Z'.val.toNat = 90 := rfl
  have : 'a'.val.toNat = 97 := rfl
  have : 'z'.val.toNat = 122 := rfl
  have : '0'.val.toNat = 48 := rfl
  have : '9'.val.toNat = 57 := rfl
  simp only [isPlain, Bool.and_eq_true, decide_eq_true_eq]
  omega

/-- Letters and digits stand in a segment as they are. -/
theorem percentEncode_of_alphanum {cs : List Char} (h : ∀ c ∈ cs, c.isAlphanum = true) :
    percentEncode segmentReserved cs = cs := by
  have other : segmentReserved.all (fun c => !c.isAlphanum) = true := by decide
  rw [List.all_eq_true] at other
  induction cs with
  | nil => rfl
  | cons c cs ih =>
    have hc := h c (by simp)
    have hr : segmentReserved.contains c = false := by
      rw [← Bool.not_eq_true, List.contains_iff_mem]
      intro hm
      have hn := other c hm
      rw [hc] at hn
      cases hn
    have ih := ih fun d hd => h d (by simp [hd])
    rw [percentEncode] at ih ⊢
    rw [List.flatMap_cons, ih, isPlain_of_alphanum hc, hr]
    rfl

end PortShare.Url
