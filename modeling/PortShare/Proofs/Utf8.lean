import PortShare.Text.Utf8

/-! UTF-8 read back: every character is read off its own bytes, and so is every text off the bytes
that it is sent as. -/

namespace PortShare.Utf8

theorem toNat_toUInt8 {n : Nat} (h : n < 256) : n.toUInt8.toNat = n := by
  rw [Nat.toUInt8, UInt8.toNat_ofNat', Nat.mod_eq_of_lt h]

theorem toNat_tailByte (n : Nat) : (tailByte n).toNat = 0x80 + n % 64 :=
  toNat_toUInt8 (by omega)

theorem isTail_tailByte (n : Nat) : isTail (tailByte n).toNat = true := by
  rw [toNat_tailByte]
  simp only [isTail, Bool.and_eq_true, decide_eq_true_eq]
  omega

theorem toNat_lt (c : Char) : c.toNat < 0xD800 ∨ 0xDFFF < c.toNat ∧ c.toNat < 0x110000 := c.valid

section next

variable {a b c d : UInt8} {rest : Bytes}

theorem next_one (h : a.toNat < 0x80) : next (a :: rest) = some (Char.ofNat a.toNat, rest) := by
  have hw : width? a.toNat = some 1 := by rw [width?, if_pos h]
  simp only [next, hw]

theorem next_two (ha : 0xC2 ≤ a.toNat) (ha' : a.toNat < 0xE0)
    (hb : isSecond a.toNat b.toNat = true) :
    next (a :: b :: rest) =
      some (Char.ofNat ((a.toNat - 0xC0) * 64 + (b.toNat - 0x80)), rest) := by
  have hw : width? a.toNat = some 2 := by
    rw [width?, if_neg (by omega), if_neg (by omega), if_pos ha']
  simp only [next, hw, hb, if_true]

theorem next_three (ha : 0xE0 ≤ a.toNat) (ha' : a.toNat < 0xF0)
    (hb : isSecond a.toNat b.toNat = true) (hc : isTail c.toNat = true) :
    next (a :: b :: c :: rest) = some (Char.ofNat ((a.toNat - 0xE0) * 4096
      + (b.toNat - 0x80) * 64 + (c.toNat - 0x80)), rest) := by
  have hw : width? a.toNat = some 3 := by
    rw [width?, if_neg (by omega), if_neg (by omega), if_neg (by omega), if_pos ha']
  simp only [next, hw, hb, hc, Bool.and_self, if_true]

theorem next_four (ha : 0xF0 ≤ a.toNat) (ha' : a.toNat < 0xF5)
    (hb : isSecond a.toNat b.toNat = true) (hc : isTail c.toNat = true)
    (hd : isTail d.toNat = true) :
    next (a :: b :: c :: d :: rest) = some (Char.ofNat ((a.toNat - 0xF0) * 262144
      + (b.toNat - 0x80) * 4096 + (c.toNat - 0x80) * 64 + (d.toNat - 0x80)), rest) := by
  have hw : width? a.toNat = some 4 := by
    rw [width?, if_neg (by omega), if_neg (by omega), if_neg (by omega), if_neg (by omega),
      if_pos ha']
  simp only [next, hw, hb, hc, hd, Bool.and_self, if_true]

end next

/-- A second byte is one that continues, and where the first leaves few values, one of those. -/
theorem isSecond_of {lead second : Nat} (h : 0x80 ≤ second) (h' : second < 0xC0)
    (h₁ : lead = 0xE0 → 0xA0 ≤ second) (h₂ : lead = 0xED → second < 0xA0)
    (h₃ : lead = 0xF0 → 0x90 ≤ second) (h₄ : lead = 0xF4 → second < 0x90) :
    isSecond lead second = true := by
  unfold isSecond
  repeat' split
  all_goals simp only [Bool.and_eq_true, decide_eq_true_eq]; omega

theorem next_encodeChar (c : Char) (rest : Bytes) :
    next (encodeChar c ++ rest) = some (c, rest) := by
  have hc := toNat_lt c
  have back {n : Nat} (h : n = c.toNat) : some (Char.ofNat n, rest) = some (c, rest) := by
    rw [h, Char.ofNat_toNat]
  unfold encodeChar
  by_cases h₁ : c.toNat < 0x80
  · have ha := @toNat_toUInt8 c.toNat (by omega)
    simp only [h₁, if_true, List.cons_append, List.nil_append]
    rw [next_one (by omega)]
    exact back ha
  by_cases h₂ : c.toNat < 0x800
  · have ha := @toNat_toUInt8 (0xC0 + c.toNat / 64) (by omega)
    have hb := toNat_tailByte c.toNat
    simp only [h₁, h₂, if_true, if_false, List.cons_append, List.nil_append]
    rw [next_two (by omega) (by omega) (isSecond_of (by omega) (by omega) (by omega) (by omega)
      (by omega) (by omega)), ha, hb]
    exact back (by omega)
  by_cases h₃ : c.toNat < 0x10000
  · have ha := @toNat_toUInt8 (0xE0 + c.toNat / 4096) (by omega)
    have hb := toNat_tailByte (c.toNat / 64)
    have hd := toNat_tailByte c.toNat
    simp only [h₁, h₂, h₃, if_true, if_false, List.cons_append, List.nil_append]
    rw [next_three (by omega) (by omega) (isSecond_of (by omega) (by omega) (by omega) (by omega)
      (by omega) (by omega)) (isTail_tailByte _), ha, hb, hd]
    exact back (by omega)
  · have ha := @toNat_toUInt8 (0xF0 + c.toNat / 262144) (by omega)
    have hb := toNat_tailByte (c.toNat / 4096)
    have hd := toNat_tailByte (c.toNat / 64)
    have he := toNat_tailByte c.toNat
    simp only [h₁, h₂, h₃, if_false, List.cons_append, List.nil_append]
    rw [next_four (by omega) (by omega) (isSecond_of (by omega) (by omega) (by omega) (by omega)
      (by omega) (by omega)) (isTail_tailByte _) (isTail_tailByte _), ha, hb, hd, he]
    exact back (by omega)

/-- The bytes of a character begin with the character itself or with a byte above all ASCII. -/
theorem encodeChar_eq_cons (c : Char) :
    ∃ b tail, encodeChar c = b :: tail ∧
      (b.toNat = c.toNat ∧ tail = [] ∨ 0x80 ≤ b.toNat ∧ 0x80 ≤ c.toNat) := by
  have hc := toNat_lt c
  unfold encodeChar
  by_cases h₁ : c.toNat < 0x80
  · simp only [h₁, if_true]
    exact ⟨_, _, rfl, .inl ⟨toNat_toUInt8 (by omega), rfl⟩⟩
  by_cases h₂ : c.toNat < 0x800
  · simp only [h₁, h₂, if_true, if_false]
    exact ⟨_, _, rfl, .inr ⟨by rw [toNat_toUInt8] <;> omega, by omega⟩⟩
  by_cases h₃ : c.toNat < 0x10000
  · simp only [h₁, h₂, h₃, if_true, if_false]
    exact ⟨_, _, rfl, .inr ⟨by rw [toNat_toUInt8] <;> omega, by omega⟩⟩
  · simp only [h₁, h₂, h₃, if_false]
    exact ⟨_, _, rfl, .inr ⟨by rw [toNat_toUInt8] <;> omega, by omega⟩⟩

/-- A character is one byte of its own number, or all of its bytes are above all ASCII. -/
theorem encodeChar_bytes (c : Char) :
    (∃ b, encodeChar c = [b] ∧ b.toNat = c.toNat) ∨ ∀ b ∈ encodeChar c, 0x80 ≤ b.toNat := by
  have hc := toNat_lt c
  have tail (n : Nat) : 0x80 ≤ (tailByte n).toNat := by
    rw [toNat_tailByte]
    omega
  have lead {n : Nat} (h : 0x80 ≤ n) (h' : n < 256) : 0x80 ≤ n.toUInt8.toNat := by
    rwa [toNat_toUInt8 h']
  unfold encodeChar
  by_cases h₁ : c.toNat < 0x80
  · simp only [h₁, if_true]
    exact .inl ⟨_, rfl, toNat_toUInt8 (by omega)⟩
  refine .inr ?_
  by_cases h₂ : c.toNat < 0x800
  · simp only [h₁, h₂, if_true, if_false, List.forall_mem_cons]
    exact ⟨lead (by omega) (by omega), tail _, nofun⟩
  by_cases h₃ : c.toNat < 0x10000
  · simp only [h₁, h₂, h₃, if_true, if_false, List.forall_mem_cons]
    exact ⟨lead (by omega) (by omega), tail _, tail _, nofun⟩
  · simp only [h₁, h₂, h₃, if_false, List.forall_mem_cons]
    exact ⟨lead (by omega) (by omega), tail _, tail _, tail _, nofun⟩

theorem encode_cons (c : Char) (cs : List Char) : encode (c :: cs) = encodeChar c ++ encode cs :=
  List.flatMap_cons

theorem encode_append (cs ds : List Char) : encode (cs ++ ds) = encode cs ++ encode ds :=
  List.flatMap_append

theorem decode?_encode (cs : List Char) : decode? (encode cs) = some cs := by
  induction cs with
  | nil => rw [encode, List.flatMap_nil, decode?]
  | cons c cs ih =>
    have hn := next_encodeChar c (encode cs)
    obtain ⟨b, tail, hb, -⟩ := encodeChar_eq_cons c
    rw [encode_cons]
    rw [hb, List.cons_append] at hn ⊢
    rw [decode?]
    split
    · next h =>
      rw [hn] at h
      cases h
    · next h =>
      rw [hn] at h
      cases h
      rw [ih]
      rfl

/-- Nothing is lost of bytes that are a text. -/
theorem decodeLossy_encode (cs : List Char) : decodeLossy (encode cs) = cs := by
  induction cs with
  | nil => rw [encode, List.flatMap_nil, decodeLossy]
  | cons c cs ih =>
    have hn := next_encodeChar c (encode cs)
    obtain ⟨b, tail, hb, -⟩ := encodeChar_eq_cons c
    rw [encode_cons]
    rw [hb, List.cons_append] at hn ⊢
    rw [decodeLossy]
    split
    · next h =>
      rw [hn] at h
      cases h
      rw [ih]
    · next h =>
      rw [hn] at h
      cases h

theorem encode_inj {cs ds : List Char} : encode cs = encode ds ↔ cs = ds := by
  refine ⟨fun h => ?_, fun h => by rw [h]⟩
  have hc := decode?_encode cs
  rw [h, decode?_encode] at hc
  exact (Option.some.inj hc).symm

theorem bytes_inj {s t : String} : bytes s = bytes t ↔ s = t := by
  rw [bytes, bytes, encode_inj, String.toList_inj]

theorem text?_bytes (s : String) : text? (bytes s) = some s := by
  rw [text?, bytes, decode?_encode, Option.map_some, String.ofList_toList]

theorem length_encodeChar (c : Char) : (encodeChar c).length = c.utf8Size := by
  have below {n : UInt32} : c.val ≤ n ↔ c.toNat < n.toNat + 1 :=
    UInt32.le_iff_toNat_le.trans Nat.lt_succ_iff.symm
  have hsize : c.utf8Size = if c.toNat < 0x80 then 1 else if c.toNat < 0x800 then 2
      else if c.toNat < 0x10000 then 3 else 4 := by
    simp only [Char.utf8Size, below]
    rfl
  rw [hsize, encodeChar]
  repeat' split
  all_goals rfl

theorem length_encode (cs : List Char) : (encode cs).length = (String.ofList cs).utf8ByteSize := by
  induction cs with
  | nil => rfl
  | cons c cs ih =>
    rw [encode_cons, List.length_append, length_encodeChar, ih, String.ofList_cons,
      String.utf8ByteSize_append, String.utf8ByteSize_singleton]

/-- No text has more characters than bytes. -/
theorem length_le_length_encode (cs : List Char) : cs.length ≤ (encode cs).length := by
  induction cs with
  | nil => exact Nat.le_refl _
  | cons c cs ih =>
    have hc := c.utf8Size_pos
    rw [encode_cons, List.length_append, length_encodeChar, List.length_cons]
    omega

end PortShare.Utf8
