import PortShare.Validation

/-! What the checks of typed fields let through, told without the checks: numerals of ports, the
spellings of access levels, and names of letters and digits. -/

namespace PortShare

section name

def IsLetter (c : Char) : Prop := 'a' ≤ c ∧ c ≤ 'z' ∨ 'A' ≤ c ∧ c ≤ 'Z'

def IsDigit (c : Char) : Prop := '0' ≤ c ∧ c ≤ '9'

/-- Is the text a name that a devurl can be given? -/
structure IsProperName (s : String) : Prop where
  length : 1 ≤ s.length ∧ s.length ≤ 64
  begins : ∃ c, s.toList.head? = some c ∧ IsLetter c
  chars : ∀ c ∈ s.toList, IsLetter c ∨ IsDigit c

theorem isAlpha_iff {c : Char} : c.isAlpha = true ↔ IsLetter c := by
  unfold Char.isAlpha Char.isUpper Char.isLower
  simp only [IsLetter, Bool.or_eq_true, Bool.and_eq_true, decide_eq_true_eq, Char.le_def]
  exact or_comm

theorem isDigit_iff {c : Char} : c.isDigit = true ↔ IsDigit c := by
  simp only [Char.isDigit, IsDigit, Bool.and_eq_true, decide_eq_true_eq, Char.le_def]

theorem isAlphanum_iff {c : Char} : c.isAlphanum = true ↔ IsLetter c ∨ IsDigit c := by
  rw [Char.isAlphanum, Bool.or_eq_true, isAlpha_iff, isDigit_iff]

theorem isName_iff_isProperName {s : String} : isName s = true ↔ s = "" ∨ IsProperName s := by
  unfold isName
  cases hs : s.toList with
  | nil =>
    have : s = "" := String.toList_injective hs
    simp [this]
  | cons c cs =>
    have hne : s ≠ "" := by
      rintro rfl
      cases hs
    have hlength : s.length = cs.length + 1 := by rw [← String.length_toList, hs, List.length_cons]
    simp only [Bool.and_eq_true, isAlpha_iff, List.all_eq_true, isAlphanum_iff, decide_eq_true_eq]
    constructor
    · rintro ⟨⟨hc, hcs⟩, hl⟩
      refine .inr ⟨by omega, ⟨c, by rw [hs]; rfl, hc⟩, ?_⟩
      rw [hs, List.forall_mem_cons]
      exact ⟨.inl hc, hcs⟩
    · rintro (rfl | ⟨hl, ⟨d, hd, hletter⟩, hchars⟩)
      · exact absurd rfl hne
      · rw [hs] at hd hchars
        obtain rfl := Option.some.inj hd
        exact ⟨⟨hletter, (List.forall_mem_cons.mp hchars).2⟩, by omega⟩

end name

section port

/-- Is the text a run of digits that write a port? -/
structure IsPort (s : String) : Prop where
  digits : s ≠ "" ∧ ∀ c ∈ s.toList, IsDigit c
  range : 1 ≤ Numeral.value 10 s.toList ∧ Numeral.value 10 s.toList ≤ 65535

theorem le_toNat {a c : Char} (h : a ≤ c) : a.toNat ≤ c.toNat := by
  rwa [Char.le_def, UInt32.le_iff_toNat_le] at h

theorem isDigitIn_ten_iff {c : Char} : Numeral.isDigitIn 10 c = true ↔ IsDigit c := by
  rw [← isDigit_iff, Numeral.isDigitIn, decide_eq_true_eq, Numeral.digitValue]
  by_cases hd : c.isDigit = true
  · have : c.toNat ≤ 57 := le_toNat (isDigit_iff.mp hd).2
    simp only [hd, if_true, iff_true]
    omega
  · simp only [hd, if_false, iff_false, Bool.and_eq_true, decide_eq_true_eq, Bool.false_eq_true]
    split
    · next h =>
      have : 97 ≤ c.toNat := le_toNat h.1
      omega
    · split
      · next h =>
        have : 65 ≤ c.toNat := le_toNat h.1
        omega
      · omega

theorem value?_eq_some_iff {s : String} {n : Nat} :
    Numeral.value? 10 s.toList = some n ↔
      (s ≠ "" ∧ ∀ c ∈ s.toList, IsDigit c) ∧ Numeral.value 10 s.toList = n := by
  have hdigits : s.toList ≠ [] ∧ s.toList.all (Numeral.isDigitIn 10) = true ↔
      s ≠ "" ∧ ∀ c ∈ s.toList, IsDigit c := by
    simp only [ne_eq, String.toList_eq_nil_iff, List.all_eq_true, isDigitIn_ten_iff]
  rw [← hdigits, Numeral.value?]
  split
  · next h => simp only [Option.some.injEq, h, ne_eq, not_false_eq_true, and_self, true_and]
  · next h => simp only [reduceCtorEq, h, false_and]

theorem readPort_eq_ok_iff {s : String} {port : UInt16} :
    readPort s = .ok port ↔ IsPort s ∧ port.toNat = Numeral.value 10 s.toList := by
  unfold readPort
  cases hv : Numeral.value? 10 s.toList with
  | none =>
    simp only [reduceCtorEq, false_iff]
    rintro ⟨⟨hdigits, -⟩, -⟩
    rw [value?_eq_some_iff.mpr ⟨hdigits, rfl⟩] at hv
    cases hv
  | some n =>
    obtain ⟨hdigits, rfl⟩ := value?_eq_some_iff.mp hv
    simp only
    split
    · next h =>
      simp only [reduceCtorEq, false_iff]
      rintro ⟨⟨-, hrange⟩, -⟩
      omega
    · split
      · next h =>
        simp only [reduceCtorEq, false_iff]
        rintro ⟨⟨-, hrange⟩, -⟩
        omega
      · next h h' =>
        have hn : (Numeral.value 10 s.toList).toUInt16.toNat = Numeral.value 10 s.toList := by
          exact UInt16.toNat_ofNat_of_lt (by rw [UInt16.size]; omega)
        simp only [Except.ok.injEq]
        constructor
        · rintro rfl
          exact ⟨⟨hdigits, by omega⟩, hn⟩
        · rintro ⟨-, hport⟩
          exact UInt16.toNat_inj.mp (hn.trans hport.symm)

theorem exists_readPort_iff {s : String} : (∃ port, readPort s = .ok port) ↔ IsPort s := by
  simp only [readPort_eq_ok_iff]
  constructor
  · rintro ⟨port, hs, -⟩
    exact hs
  · intro hs
    have hrange := hs.range
    refine ⟨(Numeral.value 10 s.toList).toUInt16, hs, ?_⟩
    exact UInt16.toNat_ofNat_of_lt (by rw [UInt16.size]; omega)

theorem one_le_of_readPort {s : String} {port : UInt16} (h : readPort s = .ok port) :
    1 ≤ port.toNat := by
  obtain ⟨hs, hport⟩ := readPort_eq_ok_iff.mp h
  rw [hport]
  exact hs.range.1

end port

section access

def accessNames : List String := ["PRIVATE", "ORG", "AUTHED", "PUBLIC"]

theorem AccessLevel.name_mem (level : AccessLevel) : level.name ∈ accessNames := by
  cases level <;> decide

theorem AccessLevel.ofName?_eq_some_iff {s : String} {level : AccessLevel} :
    ofName? s = some level ↔ upper s = level.name := by
  constructor
  · intro h
    have hn := List.find?_some (p := fun l : AccessLevel => l.name == upper s) h
    exact (beq_iff_eq.mp hn).symm
  · intro h
    rw [ofName?, h]
    cases level <;> decide

theorem AccessLevel.exists_ofName?_iff {s : String} :
    (∃ level, ofName? s = some level) ↔ upper s ∈ accessNames := by
  simp only [ofName?_eq_some_iff]
  constructor
  · rintro ⟨level, h⟩
    rw [h]
    exact level.name_mem
  · intro h
    simp only [accessNames, List.mem_cons, List.not_mem_nil, or_false] at h
    rcases h with h | h | h | h
    · exact ⟨.owner, h⟩
    · exact ⟨.organization, h⟩
    · exact ⟨.authenticated, h⟩
    · exact ⟨.anyone, h⟩

end access

end PortShare
