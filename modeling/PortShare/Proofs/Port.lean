import Mathlib.Data.Nat.Digits.Defs
import PortShare.Proofs.Admission
import PortShare.Proofs.Json.Writing

/-! Ports are read as decimal numbers, exactly and at any length. What is accepted writes a number
from 1 to 65535, and counting its digits up in 16 bits comes to the same number. -/

namespace PortShare

section digits

/-- Is the text a run of digits, of which there is at least one? -/
def IsNumeral (s : String) : Prop := s ≠ "" ∧ ∀ b ∈ Utf8.bytes s, 48 ≤ b ∧ b ≤ 57

/-- The number that a run of digits writes: the last digit counts once, and every other ten times
what it would count one place further on. -/
def decimalValue (s : String) : Nat :=
  Nat.ofDigits 10 (s.toList.map fun c => c.toNat - 48).reverse

theorem isDigit_iff_toNat {c : Char} : IsDigit c ↔ 48 ≤ c.toNat ∧ c.toNat ≤ 57 := by
  simp only [IsDigit, Char.le_def, UInt32.le_iff_toNat_le]
  rfl

theorem digitValue_of_isDigit {c : Char} (h : IsDigit c) :
    Numeral.digitValue c = c.toNat - 48 := by
  rw [Numeral.digitValue, if_pos (isDigit_iff.mpr h)]

/-- A character is a digit if its bytes are digits, and it has one byte then. -/
theorem forall_mem_encodeChar_iff {c : Char} :
    (∀ b ∈ Utf8.encodeChar c, 48 ≤ b ∧ b ≤ 57) ↔ IsDigit c := by
  have toNat_iff (b : UInt8) : 48 ≤ b ∧ b ≤ 57 ↔ 48 ≤ b.toNat ∧ b.toNat ≤ 57 := by
    simp only [UInt8.le_iff_toNat_le]
    rfl
  simp only [toNat_iff, isDigit_iff_toNat]
  obtain ⟨b, tail, hb, hfirst⟩ := Utf8.encodeChar_eq_cons c
  rw [hb, List.forall_mem_cons]
  rcases hfirst with ⟨hbyte, rfl⟩ | ⟨hbyte, hc⟩
  · simp [hbyte]
  · constructor
    · rintro ⟨hrange, -⟩
      omega
    · intro hrange
      omega

theorem isNumeral_iff {s : String} : IsNumeral s ↔ s ≠ "" ∧ ∀ c ∈ s.toList, IsDigit c := by
  have hbytes : (∀ b ∈ Utf8.bytes s, 48 ≤ b ∧ b ≤ 57) ↔ ∀ c ∈ s.toList, IsDigit c := by
    simp only [← forall_mem_encodeChar_iff, Utf8.bytes, Utf8.encode, List.mem_flatMap]
    constructor
    · intro h c hc b hb
      exact h b ⟨c, hc, hb⟩
    · rintro h b ⟨c, hc, hb⟩
      exact h c hc b hb
  rw [IsNumeral, hbytes]

theorem value_eq_ofDigits (cs : List Char) :
    Numeral.value 10 cs = Nat.ofDigits 10 (cs.map Numeral.digitValue).reverse := by
  rw [Numeral.value, Nat.ofDigits_eq_foldr, List.foldr_reverse, List.foldl_map]
  congr 1
  funext n c
  rw [Nat.mul_comm, Nat.add_comm]
  rfl

theorem map_digitValue {cs : List Char} (h : ∀ c ∈ cs, IsDigit c) :
    cs.map Numeral.digitValue = cs.map fun c => c.toNat - 48 :=
  List.map_congr_left fun c hc => digitValue_of_isDigit (h c hc)

theorem IsNumeral.value_eq {s : String} (h : IsNumeral s) :
    Numeral.value 10 s.toList = decimalValue s := by
  rw [value_eq_ofDigits, map_digitValue (isNumeral_iff.mp h).2, decimalValue]

theorem isPort_iff {s : String} :
    IsPort s ↔ IsNumeral s ∧ 1 ≤ decimalValue s ∧ decimalValue s ≤ 65535 := by
  constructor
  · rintro ⟨hdigits, hrange⟩
    have hs := isNumeral_iff.mpr hdigits
    rw [hs.value_eq] at hrange
    exact ⟨hs, hrange⟩
  · rintro ⟨hs, hrange⟩
    rw [← hs.value_eq] at hrange
    exact ⟨isNumeral_iff.mp hs, hrange⟩

end digits

section word

/-- The product, if 16 bits have room for it. -/
def times? (n m : UInt16) : Option UInt16 :=
  if n.toNat * m.toNat < 65536 then some (n * m) else none

/-- The sum, if 16 bits have room for it. -/
def plus? (n m : UInt16) : Option UInt16 :=
  if n.toNat + m.toNat < 65536 then some (n + m) else none

def appendDigit? (n : UInt16) (c : Char) : Option UInt16 :=
  (times? n 10).bind fun tens => plus? tens (c.toNat - 48).toUInt16

/-- The number behind `n` as far as it has been counted up, digit by digit in 16 bits; it ends at the
first digit for which there is no room. -/
def countUp? (n : UInt16) (cs : List Char) : Option UInt16 := cs.foldlM appendDigit? n

theorem toNat_toUInt16 {n : Nat} (h : n < 65536) : n.toUInt16.toNat = n :=
  UInt16.toNat_ofNat_of_lt h

theorem times?_eq_some_iff {n m k : UInt16} : times? n m = some k ↔ k.toNat = n.toNat * m.toNat := by
  have hk := k.toNat_lt
  rw [times?]
  split
  · next h =>
    have hnm : (n * m).toNat = n.toNat * m.toNat := by rw [UInt16.toNat_mul, Nat.mod_eq_of_lt h]
    rw [Option.some.injEq, ← UInt16.toNat_inj, hnm, eq_comm]
  · simp only [reduceCtorEq, false_iff]
    omega

theorem plus?_eq_some_iff {n m k : UInt16} : plus? n m = some k ↔ k.toNat = n.toNat + m.toNat := by
  have hk := k.toNat_lt
  rw [plus?]
  split
  · next h =>
    have hnm : (n + m).toNat = n.toNat + m.toNat := by rw [UInt16.toNat_add, Nat.mod_eq_of_lt h]
    rw [Option.some.injEq, ← UInt16.toNat_inj, hnm, eq_comm]
  · simp only [reduceCtorEq, false_iff]
    omega

theorem appendDigit?_eq_some_iff {n k : UInt16} {c : Char} (h : IsDigit c) :
    appendDigit? n c = some k ↔ k.toNat = n.toNat * 10 + Numeral.digitValue c := by
  have hc := isDigit_iff_toNat.mp h
  have hd : (c.toNat - 48).toUInt16.toNat = c.toNat - 48 := toNat_toUInt16 (by omega)
  have hk := k.toNat_lt
  rw [appendDigit?, Option.bind_eq_some_iff, digitValue_of_isDigit h]
  simp only [times?_eq_some_iff, plus?_eq_some_iff, hd]
  constructor
  · rintro ⟨tens, htens, hk'⟩
    rw [hk', htens]
    rfl
  · intro hk'
    -- what has room with the digit has room without it
    have htens : (n.toNat * 10).toUInt16.toNat = n.toNat * 10 := toNat_toUInt16 (by omega)
    exact ⟨_, htens, by rw [hk', htens]⟩

theorem le_foldl_digits (cs : List Char) (n : Nat) :
    n ≤ cs.foldl (fun n c => n * 10 + Numeral.digitValue c) n := by
  have h := Json.Literal.le_foldl (cs.map Numeral.digitValue) n
  rwa [List.foldl_map] at h

/-- No digit is lost on the way, and none for which there was room is refused. -/
theorem countUp?_eq_some_iff {cs : List Char} {n k : UInt16} (h : ∀ c ∈ cs, IsDigit c) :
    countUp? n cs = some k ↔
      k.toNat = cs.foldl (fun n c => n * 10 + Numeral.digitValue c) n.toNat := by
  induction cs generalizing n with
  | nil =>
    rw [countUp?, List.foldlM_nil, List.foldl_nil, UInt16.toNat_inj, eq_comm]
    exact Option.some_inj
  | cons c cs ih =>
    obtain ⟨hc, hcs⟩ := List.forall_mem_cons.mp h
    rw [countUp?, List.foldlM_cons, List.foldl_cons]
    cases hstep : appendDigit? n c with
    | some m =>
      rw [← (appendDigit?_eq_some_iff hc).mp hstep]
      exact ih hcs
    | none =>
      -- a number that has grown out of 16 bits does not come back into them
      have hlarge : 65536 ≤ n.toNat * 10 + Numeral.digitValue c := by
        by_contra hlt
        have hm := toNat_toUInt16 (Nat.lt_of_not_le hlt)
        rw [(appendDigit?_eq_some_iff hc).mpr hm] at hstep
        cases hstep
      have hle := le_foldl_digits cs (n.toNat * 10 + Numeral.digitValue c)
      have hk := k.toNat_lt
      refine ⟨nofun, fun hk' => ?_⟩
      omega

theorem IsNumeral.countUp?_eq_some_iff {s : String} (h : IsNumeral s) {k : UInt16} :
    countUp? 0 s.toList = some k ↔ k.toNat = decimalValue s := by
  rw [PortShare.countUp?_eq_some_iff (isNumeral_iff.mp h).2, ← h.value_eq]
  rfl

example : countUp? 0 "0065535".toList = some 65535 ∧ countUp? 0 "65536".toList = none := by decide

end word

section zeros

/-- The texts differ in the zeros that they begin with, and in nothing else. -/
def SameButForZeros (s t : String) : Prop :=
  ∃ m n rest, s.toList = List.replicate m '0' ++ rest ∧ t.toList = List.replicate n '0' ++ rest

theorem exists_zeros (cs : List Char) :
    ∃ n rest, cs = List.replicate n '0' ++ rest ∧ rest.head? ≠ some '0' := by
  induction cs with
  | nil => exact ⟨0, [], rfl, nofun⟩
  | cons c cs ih =>
    by_cases hc : c = '0'
    · obtain ⟨n, rest, rfl, hrest⟩ := ih
      exact ⟨n + 1, rest, by rw [hc, List.replicate_succ, List.cons_append], hrest⟩
    · refine ⟨0, c :: cs, rfl, fun h => hc ?_⟩
      exact Option.some.inj h

/-- Zeros in front count for nothing. -/
theorem decimalValue_of_zeros {s : String} {n : Nat} {rest : List Char}
    (h : s.toList = List.replicate n '0' ++ rest) :
    decimalValue s = Nat.ofDigits 10 (rest.map fun c => c.toNat - 48).reverse := by
  rw [decimalValue, h, List.map_append, List.map_replicate, List.reverse_append,
    List.reverse_replicate]
  exact Nat.ofDigits_append_replicate_zero _

/-- What is behind the zeros can be told from the number. -/
theorem digits_of_head {rest : List Char} (hd : ∀ c ∈ rest, IsDigit c)
    (hz : rest.head? ≠ some '0') :
    (Nat.digits 10 (Nat.ofDigits 10 (rest.map fun c => c.toNat - 48).reverse)).reverse.map
      (fun d => Char.ofNat (48 + d)) = rest := by
  rw [Nat.digits_ofDigits 10 (by decide), List.reverse_reverse, List.map_map]
  · refine (List.map_congr_left fun c hc => ?_).trans (List.map_id rest)
    have hrange := isDigit_iff_toNat.mp (hd c hc)
    rw [Function.comp, Nat.add_sub_cancel' hrange.1, Char.ofNat_toNat, id]
  · intro d hmem
    obtain ⟨c, hc, rfl⟩ := List.mem_map.mp (List.mem_reverse.mp hmem)
    have hrange := isDigit_iff_toNat.mp (hd c hc)
    omega
  · intro hne
    cases rest with
    | nil => exact absurd rfl hne
    | cons c rest =>
      have hrange := isDigit_iff_toNat.mp (hd c (List.mem_cons_self ..))
      rw [List.getLast_reverse, List.head_map, List.head_cons]
      intro hzero
      have hc : c.toNat = '0'.toNat := by
        change c.toNat = 48
        omega
      exact hz (congrArg some (Char.toNat_inj.mp hc))

theorem sameButForZeros_iff {s t : String} (hs : ∀ c ∈ s.toList, IsDigit c)
    (ht : ∀ c ∈ t.toList, IsDigit c) :
    SameButForZeros s t ↔ decimalValue s = decimalValue t := by
  constructor
  · rintro ⟨m, n, rest, hms, hnt⟩
    rw [decimalValue_of_zeros hms, decimalValue_of_zeros hnt]
  · intro hvalue
    obtain ⟨m, rest, hms, hrest⟩ := exists_zeros s.toList
    obtain ⟨n, rest', hnt, hrest'⟩ := exists_zeros t.toList
    rw [decimalValue_of_zeros hms, decimalValue_of_zeros hnt] at hvalue
    have hd := digits_of_head (fun c hc => hs c (hms ▸ List.mem_append_right _ hc)) hrest
    have hd' := digits_of_head (fun c hc => ht c (hnt ▸ List.mem_append_right _ hc)) hrest'
    rw [hvalue, hd'] at hd
    exact ⟨m, n, rest, hms, hd ▸ hnt⟩

/-- What differs from a port in leading zeros is a run of digits as well. -/
theorem SameButForZeros.isNumeral {s t : String} (h : SameButForZeros s t) (hs : IsPort s) :
    IsNumeral t := by
  obtain ⟨m, n, rest, hms, hnt⟩ := h
  have hvalue := (isPort_iff.mp hs).2.1
  rw [decimalValue_of_zeros hms] at hvalue
  refine isNumeral_iff.mpr ⟨?_, fun c hc => ?_⟩
  · rintro rfl
    obtain ⟨-, rfl⟩ := List.append_eq_nil_iff.mp hnt.symm
    exact absurd hvalue (by decide)
  · rw [hnt, List.mem_append] at hc
    rcases hc with hc | hc
    · rw [List.eq_of_mem_replicate hc]
      exact ⟨by decide, by decide⟩
    · exact hs.digits.2 c (hms ▸ List.mem_append_right _ hc)

end zeros

theorem checkPort_eq_ok_iff_value {s : String} {port : UInt16} : checkPort s = .ok port ↔
    IsNumeral s ∧ port.toNat = decimalValue s ∧ port ≠ 0 := by
  have hport : port ≠ 0 ↔ 1 ≤ port.toNat := by
    rw [Nat.one_le_iff_ne_zero, ne_eq, ne_eq, ← UInt16.toNat_inj]
    rfl
  have hlt := port.toNat_lt
  rw [checkPort_eq_ok_iff, readPort_eq_ok_iff, isPort_iff, hport]
  constructor
  · rintro ⟨⟨hs, hrange⟩, hvalue⟩
    rw [hs.value_eq] at hvalue
    exact ⟨hs, hvalue, by omega⟩
  · rintro ⟨hs, hvalue, hone⟩
    rw [hs.value_eq]
    exact ⟨⟨hs, by omega, by omega⟩, hvalue⟩

/-- The failures of a text that is no port: it is no numeral, or its number is none of a port. -/
theorem checkPort_eq_error_iff_value {s : String} {e : Failure} : checkPort s = .error e ↔
    ¬ IsNumeral s ∧ e = .invalidPort s "not an unsigned decimal number" ∨
    IsNumeral s ∧ decimalValue s = 0 ∧ e = .invalidPort s "port must be > 0" ∨
    IsNumeral s ∧ 65535 < decimalValue s ∧ e = .invalidPort s "out of range for a 16-bit port" := by
  rw [checkPort_eq_error_iff]
  constructor
  · rintro ⟨fault, hmarks, rfl⟩
    cases hmarks with
    | notDecimal hn => exact .inl ⟨mt isNumeral_iff.mp hn, rfl⟩
    | zero hne hd hv =>
      have hs := isNumeral_iff.mpr ⟨hne, hd⟩
      exact .inr (.inl ⟨hs, hs.value_eq ▸ hv, rfl⟩)
    | tooLarge hne hd hv =>
      have hs := isNumeral_iff.mpr ⟨hne, hd⟩
      exact .inr (.inr ⟨hs, hs.value_eq ▸ hv, rfl⟩)
  · rintro (⟨hn, rfl⟩ | ⟨hs, hv, rfl⟩ | ⟨hs, hv, rfl⟩)
    · exact ⟨_, .notDecimal (mt isNumeral_iff.mpr hn), rfl⟩
    · obtain ⟨hne, hd⟩ := isNumeral_iff.mp hs
      exact ⟨_, .zero hne hd (hs.value_eq ▸ hv), rfl⟩
    · obtain ⟨hne, hd⟩ := isNumeral_iff.mp hs
      exact ⟨_, .tooLarge hne hd (hs.value_eq ▸ hv), rfl⟩

theorem exists_both_ports_iff {s t : String} :
    (∃ port, checkPort s = .ok port ∧ checkPort t = .ok port) ↔
      (∃ port, checkPort s = .ok port) ∧ SameButForZeros s t := by
  constructor
  · rintro ⟨port, hs, ht⟩
    refine ⟨⟨port, hs⟩, ?_⟩
    obtain ⟨hs, hvalue, -⟩ := checkPort_eq_ok_iff_value.mp hs
    obtain ⟨ht, hvalue', -⟩ := checkPort_eq_ok_iff_value.mp ht
    rw [sameButForZeros_iff (isNumeral_iff.mp hs).2 (isNumeral_iff.mp ht).2]
    exact hvalue.symm.trans hvalue'
  · rintro ⟨⟨port, hs⟩, hzeros⟩
    refine ⟨port, hs, ?_⟩
    have hport := exists_readPort_iff.mp ⟨port, checkPort_eq_ok_iff.mp hs⟩
    have ht := hzeros.isNumeral hport
    obtain ⟨-, hvalue, hne⟩ := checkPort_eq_ok_iff_value.mp hs
    rw [sameButForZeros_iff hport.digits.2 (isNumeral_iff.mp ht).2] at hzeros
    exact checkPort_eq_ok_iff_value.mpr ⟨ht, hvalue.trans hzeros, hne⟩

theorem isDigit_of_mem_digits {n : Nat} {c : Char} (h : c ∈ Numeral.digits 10 n) : IsDigit c := by
  have all : ∀ d : Fin 10, IsDigit (Numeral.digit d) := by
    simp only [isDigit_iff_toNat]
    decide
  obtain ⟨d, hd, rfl⟩ := Numeral.exists_digit_of_mem (by decide) h
  exact all ⟨d, hd⟩

theorem isNumeral_decimal (n : Nat) : IsNumeral (Numeral.decimal n) := by
  rw [isNumeral_iff, Numeral.toList_decimal]
  exact ⟨fun h => Json.digits_ne_nil n (String.ofList_eq_empty_iff.mp h),
    fun c hc => isDigit_of_mem_digits hc⟩

theorem decimalValue_decimal (n : Nat) : decimalValue (Numeral.decimal n) = n := by
  rw [← (isNumeral_decimal n).value_eq, Numeral.toList_decimal]
  exact Numeral.value_digits (by decide) (by decide) n

/-- A text is a port just when it is a run of digits whose number is one from 1 to 65535; that is the
port, and counting up in 16 bits comes to it too. Every other text is refused as it was typed, for
one reason. The decimal text of a port is that port, and two texts are the same port just when one
of them is a port and they differ in leading zeros alone. -/
theorem checkPort_decimal (s : String) :
    ((∃ port, checkPort s = .ok port) ↔
      IsNumeral s ∧ 1 ≤ decimalValue s ∧ decimalValue s ≤ 65535) ∧
    (∀ port, checkPort s = .ok port ↔ IsNumeral s ∧ port.toNat = decimalValue s ∧ port ≠ 0) ∧
    (∀ port, checkPort s = .ok port ↔ IsNumeral s ∧ countUp? 0 s.toList = some port ∧ port ≠ 0) ∧
    (∀ e, checkPort s = .error e ↔
      ¬ IsNumeral s ∧ e = .invalidPort s "not an unsigned decimal number" ∨
      IsNumeral s ∧ decimalValue s = 0 ∧ e = .invalidPort s "port must be > 0" ∨
      IsNumeral s ∧ 65535 < decimalValue s ∧
        e = .invalidPort s "out of range for a 16-bit port") ∧
    (∀ port : UInt16, checkPort (Numeral.decimal port.toNat) = .ok port ↔ port ≠ 0) ∧
    ∀ t, (∃ port, checkPort s = .ok port ∧ checkPort t = .ok port) ↔
      (∃ port, checkPort s = .ok port) ∧ SameButForZeros s t := by
  refine ⟨?_, fun port => checkPort_eq_ok_iff_value, fun port => ?_,
    fun e => checkPort_eq_error_iff_value, fun port => ?_, fun t => exists_both_ports_iff⟩
  · simp only [checkPort_eq_ok_iff, exists_readPort_iff, isPort_iff]
  · rw [checkPort_eq_ok_iff_value]
    exact and_congr_right fun hs => by rw [hs.countUp?_eq_some_iff]
  · simp [checkPort_eq_ok_iff_value, isNumeral_decimal, decimalValue_decimal]

end PortShare
