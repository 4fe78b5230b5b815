import PortShare.Proofs.Json.Grammar
import PortShare.Proofs.Numeral
import PortShare.Proofs.Utf8

/-! Numbers are read as the grammar has them, to the end of their digits. A natural number of 64
bits that is written by its digits is read as itself. -/

namespace PortShare.Json

/-- No digit comes first. -/
def NoDigit (rest : Bytes) : Prop := ∀ b bs, rest = b :: bs → isDigit b = false

/-- Nothing comes first with which a number could go on. -/
def Ends (rest : Bytes) : Prop :=
  ∀ b bs, rest = b :: bs → isDigit b = false ∧ b ≠ 46 ∧ b ≠ 101 ∧ b ≠ 69

theorem Ends.noDigit {rest : Bytes} (h : Ends rest) : NoDigit rest :=
  fun b bs hr => (h b bs hr).1

theorem ends_nil : Ends [] := nofun

theorem ends_cons {b : UInt8} (h : isDigit b = false) (h46 : b ≠ 46) (h101 : b ≠ 101)
    (h69 : b ≠ 69) (bs : Bytes) : Ends (b :: bs) := by
  rintro c cs hc
  obtain ⟨rfl, -⟩ := List.cons.inj hc
  exact ⟨h, h46, h101, h69⟩

theorem ends_blank {blank rest : Bytes} (h : Blank blank) (hr : Ends rest) :
    Ends (blank ++ rest) := by
  cases blank with
  | nil => exact hr
  | cons b blank =>
    rcases h b (by simp) with rfl | rfl | rfl | rfl <;>
      exact ends_cons (by decide) (by decide) (by decide) (by decide) _

theorem ne_of_isDigit {b c : UInt8} (hb : isDigit b = true) (hc : isDigit c = false) : b ≠ c := by
  rintro rfl
  rw [hb] at hc
  cases hc

theorem isDigit_digitByte {d : Nat} (h : d < 10) : isDigit (digitByte d) = true := by
  have all : ∀ d : Fin 10, isDigit (digitByte d) = true := by decide
  exact all ⟨d, h⟩

theorem toNat_digitByte {d : Nat} (h : d < 10) : (digitByte d).toNat = 48 + d :=
  Utf8.toNat_toUInt8 (by omega)

theorem digitByte_eq_zero {d : Nat} (h : d < 10) : digitByte d = 48 ↔ d = 0 := by
  have all : ∀ d : Fin 10, digitByte d = 48 ↔ d.val = 0 := by decide
  exact all ⟨d, h⟩

theorem Literal.digits_append {bs rest : Bytes} (h : ∀ b ∈ bs, isDigit b = true)
    (hr : NoDigit rest) : digits (bs ++ rest) = (bs.map fun b => b.toNat - 48, rest) := by
  have hrest : rest.takeWhile isDigit = [] ∧ rest.dropWhile isDigit = rest := by
    cases rest with
    | nil => exact ⟨rfl, rfl⟩
    | cons b bs =>
      have hb : ¬ isDigit b = true := by simp [hr b bs rfl]
      exact ⟨List.takeWhile_cons_of_neg hb, List.dropWhile_cons_of_neg hb⟩
  rw [digits, List.takeWhile_append_of_pos h, List.dropWhile_append_of_pos h, hrest.1, hrest.2,
    List.append_nil]

theorem WritesDigits.digits {ds : List Nat} {bs rest : Bytes} (h : WritesDigits ds bs)
    (hr : NoDigit rest) : Literal.digits (bs ++ rest) = (ds, rest) := by
  obtain ⟨-, hd⟩ := h
  have hall : ∀ b ∈ ds.map digitByte, isDigit b = true := by
    intro b hb
    obtain ⟨d, hm, rfl⟩ := List.mem_map.mp hb
    exact isDigit_digitByte (hd d hm)
  have hvalue : (ds.map digitByte).map (fun b => b.toNat - 48) = ds := by
    rw [List.map_map]
    refine (List.map_congr_left fun d hm => ?_).trans (List.map_id ds)
    rw [Function.comp, toNat_digitByte (hd d hm), id]
    omega
  rw [Literal.digits_append hall hr, hvalue]

/-- Digits begin with a digit. -/
theorem WritesDigits.eq_cons {ds : List Nat} {bs : Bytes} (h : WritesDigits ds bs) :
    ∃ b tail, bs = b :: tail ∧ isDigit b = true := by
  obtain ⟨hne, hd⟩ := h
  cases ds with
  | nil => exact absurd rfl hne
  | cons d ds => exact ⟨_, _, rfl, isDigit_digitByte (hd d (by simp))⟩

namespace Literal

variable {atEnd : Cause}

theorem wholePart_of_writes {ds : List Nat} {bs rest : Bytes} (hw : IsWhole ds)
    (h : WritesDigits ds bs) (hr : NoDigit rest) :
    wholePart atEnd (bs ++ rest) = .ok (ds, rest) := by
  have hdigits := h.digits hr
  obtain ⟨hne, hd⟩ := h
  cases ds with
  | nil => exact absurd rfl hne
  | cons d ds =>
    have hlt : d < 10 := hd d (by simp)
    rw [List.map_cons, List.cons_append] at hdigits ⊢
    by_cases h0 : d = 0
    · subst h0
      obtain rfl : ds = [] := by
        rcases hw with hw | hw
        · exact (List.cons.inj hw).2
        · exact absurd rfl hw
      have hz : digitByte 0 = 48 := rfl
      cases rest with
      | nil => simp only [hz, wholePart, if_true, List.map_nil, List.nil_append]
      | cons b rest =>
        have hb := hr b rest rfl
        simp only [hz, wholePart, if_true, List.map_nil, List.nil_append, hb]
        rfl
    · have hz := mt (digitByte_eq_zero hlt).mp h0
      simp only [wholePart, hz, if_false, isDigit_digitByte hlt, if_true, hdigits]

theorem fractionPart_of_writes {fraction : Option (List Nat)} {bs rest : Bytes}
    (h : WritesFraction fraction bs) (hr : NoDigit rest) (hp : ∀ t, rest ≠ 46 :: t) :
    fractionPart atEnd (bs ++ rest) = .ok (fraction, rest) := by
  cases h with
  | absent =>
    cases rest with
    | nil => rfl
    | cons b rest =>
      have hb : b ≠ 46 := fun hb => hp rest (by rw [hb])
      simp only [List.nil_append, fractionPart, hb, if_false]
  | point h =>
    have hdigits := h.digits hr
    obtain ⟨b, tail, rfl, hb⟩ := h.eq_cons
    rw [List.cons_append] at hdigits
    rw [List.cons_append, List.cons_append, fractionPart, if_pos rfl]
    simp only [hb, if_true, hdigits]

/-- A sign, or none, in front of the digits of an exponent. -/
def IsSign (sign : Bytes) (minus : Bool) : Prop :=
  sign = [] ∧ minus = false ∨ sign = [43] ∧ minus = false ∨ sign = [45] ∧ minus = true

/-- The exponent's digits are read behind its sign. -/
theorem exponentPart_of_sign {sign : Bytes} {e d : UInt8} {minus : Bool}
    (he : e = 101 ∨ e = 69) (hs : IsSign sign minus) (hd : isDigit d = true) (bs : Bytes) :
    exponentPart atEnd (e :: (sign ++ d :: bs)) =
      .ok (some (minus, (digits (d :: bs)).1), (digits (d :: bs)).2) := by
  have h45 : d ≠ 45 := ne_of_isDigit hd (by decide)
  have h43 : d ≠ 43 := ne_of_isDigit hd (by decide)
  rcases hs with ⟨rfl, rfl⟩ | ⟨rfl, rfl⟩ | ⟨rfl, rfl⟩
  · simp only [List.nil_append, exponentPart, he, if_true, h45, h43, if_false, hd]
  · simp only [List.cons_append, List.nil_append, exponentPart, he, if_true,
      show (43 : UInt8) ≠ 45 by decide, if_false, hd]
  · simp only [List.cons_append, List.nil_append, exponentPart, he, if_true, hd]

theorem exponentPart_of_digits {sign : Bytes} {e : UInt8} {minus : Bool} {ds : List Nat}
    {bs rest : Bytes} (he : e = 101 ∨ e = 69) (hs : IsSign sign minus) (h : WritesDigits ds bs)
    (hr : NoDigit rest) :
    exponentPart atEnd (e :: (sign ++ (bs ++ rest))) = .ok (some (minus, ds), rest) := by
  have hdigits := h.digits hr
  obtain ⟨b, tail, rfl, hb⟩ := h.eq_cons
  rw [List.cons_append] at hdigits ⊢
  rw [exponentPart_of_sign he hs hb, hdigits]

theorem exponentPart_of_writes {exponent : Option (Bool × List Nat)} {bs rest : Bytes}
    (h : WritesExponent exponent bs) (hr : Ends rest) :
    exponentPart atEnd (bs ++ rest) = .ok (exponent, rest) := by
  cases h with
  | absent =>
    cases rest with
    | nil => rfl
    | cons b rest =>
      obtain ⟨-, -, h101, h69⟩ := hr b rest rfl
      simp only [List.nil_append, exponentPart, h101, h69, or_self, if_false]
  | bare he h => exact exponentPart_of_digits he (.inl ⟨rfl, rfl⟩) h hr.noDigit
  | plus he h => exact exponentPart_of_digits he (.inr (.inl ⟨rfl, rfl⟩)) h hr.noDigit
  | minus he h => exact exponentPart_of_digits he (.inr (.inr ⟨rfl, rfl⟩)) h hr.noDigit

/-- What stands behind the digits of a number is not a digit. -/
theorem noDigit_of_writes {exponent : Option (Bool × List Nat)} {bs rest : Bytes}
    (h : WritesExponent exponent bs) (hr : Ends rest) :
    NoDigit (bs ++ rest) ∧ ∀ t, bs ++ rest ≠ 46 :: t := by
  have letter {e : UInt8} (he : e = 101 ∨ e = 69) (t : Bytes) :
      NoDigit (e :: t) ∧ ∀ u, e :: t ≠ 46 :: u := by
    constructor
    · intro b bs hb
      obtain ⟨rfl, -⟩ := List.cons.inj hb
      rcases he with rfl | rfl <;> decide
    · intro u hu
      obtain ⟨rfl, -⟩ := List.cons.inj hu
      exact absurd he (by decide)
  cases h with
  | absent =>
    refine ⟨hr.noDigit, fun t ht => ?_⟩
    exact (hr 46 t ht).2.1 rfl
  | bare he _ | plus he _ | minus he _ => exact letter he _

theorem read_of_writes {l : Literal} {bs rest : Bytes} (h : WritesLiteral l bs) (hr : Ends rest) :
    read atEnd (bs ++ rest) = .ok (l, rest) := by
  obtain ⟨hw, hd, hf, he⟩ := h
  rename_i ds fraction exponent whole point power
  obtain ⟨hn, hp⟩ := noDigit_of_writes he hr
  have hn' : NoDigit (point ++ (power ++ rest)) := by
    cases hf with
    | absent => exact hn
    | point _ =>
      intro b bs hb
      obtain ⟨rfl, -⟩ := List.cons.inj hb
      decide
  rw [List.append_assoc, List.append_assoc, read, wholePart_of_writes hw hd hn']
  simp only [fractionPart_of_writes hf hn hp, exponentPart_of_writes he hr]

/-- The number that digits write. -/
def value (ds : List Nat) : Nat := ds.foldl (fun n d => n * 10 + d) 0

theorem le_foldl (ds : List Nat) (n : Nat) : n ≤ ds.foldl (fun n d => n * 10 + d) n := by
  induction ds generalizing n with
  | nil => exact Nat.le_refl n
  | cons d ds ih =>
    have := ih (n * 10 + d)
    simp only [List.foldl_cons]
    omega

theorem absorb_of_lt (ds : List Nat) (n : Nat)
    (h : ds.foldl (fun n d => n * 10 + d) n < 18446744073709551616) :
    absorb n ds = (ds.foldl (fun n d => n * 10 + d) n, []) := by
  induction ds generalizing n with
  | nil => rfl
  | cons d ds ih =>
    rw [List.foldl_cons] at h ⊢
    have := le_foldl ds (n * 10 + d)
    rw [absorb, if_pos (by omega), ih _ h]

theorem number_of_value_lt {ds : List Nat} (h : value ds < 18446744073709551616) :
    number false ⟨ds, none, none⟩ = .ok (.natural (value ds)) := by
  simp only [number, absorb_of_lt ds 0 h]
  rfl

theorem absorb_whole {n m : Nat} {ds : List Nat} (h : absorb n ds = (m, [])) :
    m = ds.foldl (fun n d => n * 10 + d) n := by
  induction ds generalizing n with
  | nil =>
    cases h
    rfl
  | cons d ds ih =>
    rw [absorb] at h
    split at h
    · exact ih h
    · cases h

theorem float_ne_natural {minus : Bool} {m n : Nat} {e : Int} :
    number.float minus m e ≠ .ok (.natural n) := by
  unfold number.float
  split <;> exact nofun

/-- Only digits alone write a natural number. -/
theorem eq_of_number_natural {minus : Bool} {l : Literal} {n : Nat}
    (h : l.number minus = .ok (.natural n)) :
    minus = false ∧ ∃ ds, l = ⟨ds, none, none⟩ ∧ value ds = n := by
  obtain ⟨ds, fraction, exponent⟩ := l
  unfold number at h
  cases hds : absorb 0 ds with
  | mk m beyond =>
  simp only [hds] at h
  split at h
  · split at h
    · next hm =>
      cases h
      exact ⟨by simpa using hm, ds, rfl, (absorb_whole hds).symm⟩
    · split at h <;> cases h
  · split at h
    · exact absurd h float_ne_natural
    · split at h
      · exact absurd h float_ne_natural
      · split at h <;> cases h

/-- The digits of a number, as they are written. -/
def ofNat (n : Nat) : List Nat := (Numeral.digits 10 n).map Numeral.digitValue

theorem value_ofNat (n : Nat) : value (ofNat n) = n := by
  rw [value, ofNat, List.foldl_map]
  exact Numeral.value_digits (by decide) (by decide) n

end Literal

theorem WritesLiteral.eq_cons {l : Literal} {bs : Bytes} (h : WritesLiteral l bs) :
    ∃ b tail, bs = b :: tail ∧ isDigit b = true := by
  obtain ⟨-, hd, -, -⟩ := h
  obtain ⟨b, tail, rfl, hb⟩ := hd.eq_cons
  exact ⟨b, _, rfl, hb⟩

theorem readNumber_eq_ok_iff {minus : Bool} {l : Literal} {n : Number} {bs rest after : Bytes}
    (h : Writes (.number minus l) bs) (hr : Ends rest) :
    readNumber (bs ++ rest) = .ok (n, after) ↔ l.number minus = .ok n ∧ after = rest := by
  cases h with
  | number h =>
    have hread : Literal.read .endInValue (bs ++ rest) = .ok (l, rest) :=
      Literal.read_of_writes h hr
    obtain ⟨b, tail, rfl, hb⟩ := h.eq_cons
    have h45 : (b == 45) = false := beq_eq_false_iff_ne.mpr (ne_of_isDigit hb (by decide))
    rw [List.cons_append] at hread ⊢
    simp only [readNumber, h45, Bool.false_eq_true, if_false, hread]
    cases l.number false <;> simp [eq_comm]
  | @negative _ bs h =>
    have hread : Literal.read .endInValue (bs ++ rest) = .ok (l, rest) :=
      Literal.read_of_writes h hr
    simp only [List.cons_append, readNumber, beq_self_eq_true, if_true, hread]
    cases l.number true <;> simp [eq_comm]

end PortShare.Json
