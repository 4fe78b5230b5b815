import PortShare.Text.Numeral

/-! Numerals read back: the digits of a number have it as their value, so that different numbers
are written differently. -/

namespace PortShare.Numeral

theorem digits_of_lt {base n : Nat} (h : n < base) : digits base n = [digit n] := by
  rw [digits, dif_neg (by omega)]

theorem digits_of_le {base n : Nat} (hb : 1 < base) (h : base ≤ n) :
    digits base n = digits base (n / base) ++ [digit (n % base)] := by
  rw [digits, dif_pos ⟨hb, h⟩]

/-- Induction along the digits of a number, from the first one on. -/
theorem digits_induction {base : Nat} (hb : 1 < base) {p : Nat → Prop}
    (one : ∀ n, n < base → p n) (more : ∀ n, base ≤ n → p (n / base) → p n) (n : Nat) : p n := by
  induction n using Nat.strongRecOn with
  | ind n ih =>
    rcases Nat.lt_or_ge n base with h | h
    · exact one n h
    · exact more n h (ih _ (Nat.div_lt_self (by omega) hb))

/-- What is written is made of digits alone. -/
theorem exists_digit_of_mem {base n : Nat} (hb : 1 < base) {c : Char} (h : c ∈ digits base n) :
    ∃ d, d < base ∧ c = digit d := by
  induction n using digits_induction hb with
  | one n hn =>
    rw [digits_of_lt hn, List.mem_singleton] at h
    exact ⟨n, hn, h⟩
  | more n hn ih =>
    rw [digits_of_le hb hn, List.mem_append, List.mem_singleton] at h
    rcases h with h | h
    · exact ih h
    · exact ⟨n % base, Nat.mod_lt _ (by omega), h⟩

theorem digitValue_digit {d : Nat} (h : d < 36) : digitValue (digit d) = d := by
  have all : ∀ d : Fin 36, digitValue (digit d) = d := by decide
  exact all ⟨d, h⟩

theorem value_concat (base : Nat) (cs : List Char) (c : Char) :
    value base (cs ++ [c]) = value base cs * base + digitValue c := by
  simp only [value, List.foldl_append, List.foldl_cons, List.foldl_nil]

theorem value_digits {base : Nat} (hb : 1 < base) (hb' : base ≤ 36) (n : Nat) :
    value base (digits base n) = n := by
  induction n using digits_induction hb with
  | one n h =>
    rw [digits_of_lt h]
    simp [value, digitValue_digit (Nat.lt_of_lt_of_le h hb')]
  | more n h ih =>
    have hm : n % base < base := Nat.mod_lt _ (by omega)
    rw [digits_of_le hb h, value_concat, ih, digitValue_digit (Nat.lt_of_lt_of_le hm hb'),
      Nat.mul_comm]
    exact Nat.div_add_mod n base

theorem toList_decimal (n : Nat) : (decimal n).toList = digits 10 n := String.toList_ofList

theorem decimal_inj {m n : Nat} : decimal m = decimal n ↔ m = n := by
  refine ⟨fun h => ?_, fun h => by rw [h]⟩
  have hd : digits 10 m = digits 10 n := String.ofList_injective h
  rw [← @value_digits 10 (by decide) (by decide) m, hd, @value_digits 10 (by decide) (by decide)]

/-- To base ten these are the digits that numbers are printed with. -/
theorem digits_ten (n : Nat) : digits 10 n = Nat.toDigits 10 n := by
  have all : ∀ d : Fin 10, digit d = Nat.digitChar d := by decide
  induction n using @digits_induction 10 (by decide) with
  | one n h => rw [digits_of_lt h, Nat.toDigits_of_lt_base h, all ⟨n, h⟩]
  | more n h ih =>
    rw [digits_of_le (by decide) h, Nat.toDigits_of_base_le (by decide) h, ih,
      all ⟨n % 10, Nat.mod_lt _ (by decide)⟩]

end PortShare.Numeral
