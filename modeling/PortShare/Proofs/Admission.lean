import Mathlib.Data.List.Forall2
import PortShare.Proofs.Course
import PortShare.Proofs.Validation

/-! Which requests are let through, and what is said of the others. A request is judged field by
field, in the order port, access level and name, and the first field that is not in order is the
failure. -/

namespace PortShare

section letters

/-- Are the characters the same, but for the case of a letter? -/
def SameLetter (c d : Char) : Prop :=
  c = d ∨ IsLetter c ∧ IsLetter d ∧ (c.toNat = d.toNat + 32 ∨ d.toNat = c.toNat + 32)

/-- Are the texts the same, but for the case of their letters? -/
def SameButForCase (s t : String) : Prop := List.Forall₂ SameLetter s.toList t.toList

theorem isLetter_iff {c : Char} :
    IsLetter c ↔ 97 ≤ c.toNat ∧ c.toNat ≤ 122 ∨ 65 ≤ c.toNat ∧ c.toNat ≤ 90 := by
  simp only [IsLetter, Char.le_def, UInt32.le_iff_toNat_le]
  rfl

theorem toNat_toUpper (c : Char) :
    c.toUpper.toNat = if 97 ≤ c.toNat ∧ c.toNat ≤ 122 then c.toNat - 32 else c.toNat := by
  have hsmall : 'a'.val ≤ c.val ∧ c.val ≤ 'z'.val ↔ 97 ≤ c.toNat ∧ c.toNat ≤ 122 := by
    simp only [UInt32.le_iff_toNat_le]
    rfl
  unfold Char.toUpper
  split
  · next h =>
    have hrange := hsmall.mp h
    have hval : c.val.toNat = c.toNat := rfl
    have hshift : ('A'.val - 'a'.val).toNat = 4294967264 := rfl
    rw [if_pos hrange]
    change (c.val + ('A'.val - 'a'.val)).toNat = c.toNat - 32
    rw [UInt32.toNat_add, hshift]
    omega
  · next h => rw [if_neg fun hrange => h (hsmall.mpr hrange)]

theorem toUpper_eq_iff {c d : Char} : c.toUpper = d.toUpper ↔ SameLetter c d := by
  rw [← Char.toNat_inj, toNat_toUpper, toNat_toUpper, SameLetter, ← Char.toNat_inj, isLetter_iff,
    isLetter_iff]
  split <;> split <;> omega

theorem upper_eq_iff {s t : String} : upper s = upper t ↔ SameButForCase s t := by
  rw [upper, upper, String.ofList_inj, ← List.forall₂_eq_eq_eq, List.forall₂_map_left_iff,
    List.forall₂_map_right_iff, SameButForCase]
  simp only [toUpper_eq_iff]

theorem AccessLevel.ofName?_eq_some_iff_same {s : String} {level : AccessLevel} :
    ofName? s = some level ↔ SameButForCase s level.name := by
  have hname : upper level.name = level.name := by cases level <;> decide
  rw [ofName?_eq_some_iff, ← upper_eq_iff, hname]

end letters

section port

/-- Is that what is wrong with a text that should be a port? -/
inductive PortFault.Marks (s : String) : PortFault → Prop where
  | notDecimal : ¬ (s ≠ "" ∧ ∀ c ∈ s.toList, IsDigit c) → Marks s .notDecimal
  | zero : s ≠ "" → (∀ c ∈ s.toList, IsDigit c) → Numeral.value 10 s.toList = 0 → Marks s .zero
  | tooLarge : s ≠ "" → (∀ c ∈ s.toList, IsDigit c) → 65535 < Numeral.value 10 s.toList →
      Marks s .tooLarge

theorem PortFault.marks_of_readPort {s : String} {fault : PortFault}
    (h : readPort s = .error fault) : fault.Marks s := by
  unfold readPort at h
  split at h
  · next hv =>
    cases h
    refine .notDecimal fun hdigits => ?_
    rw [value?_eq_some_iff.mpr ⟨hdigits, rfl⟩] at hv
    cases hv
  · next n hv =>
    obtain ⟨⟨hne, hd⟩, rfl⟩ := value?_eq_some_iff.mp hv
    split at h
    · next hlarge =>
      cases h
      exact .tooLarge hne hd hlarge
    · split at h
      · next hzero =>
        cases h
        exact .zero hne hd hzero
      · cases h

theorem PortFault.Marks.unique {s : String} {fault fault' : PortFault} (h : fault.Marks s)
    (h' : fault'.Marks s) : fault = fault' := by
  cases h with
  | notDecimal hn =>
    cases h' with
    | notDecimal _ => rfl
    | zero hne hd _ | tooLarge hne hd _ => exact absurd ⟨hne, hd⟩ hn
  | zero hne hd hv =>
    cases h' with
    | notDecimal hn => exact absurd ⟨hne, hd⟩ hn
    | zero _ _ _ => rfl
    | tooLarge _ _ hv' => omega
  | tooLarge hne hd hv =>
    cases h' with
    | notDecimal hn => exact absurd ⟨hne, hd⟩ hn
    | zero _ _ hv' => omega
    | tooLarge _ _ _ => rfl

theorem PortFault.Marks.not_isPort {s : String} {fault : PortFault} (h : fault.Marks s) :
    ¬ IsPort s := by
  rintro ⟨hdigits, hrange⟩
  cases h with
  | notDecimal hn => exact hn hdigits
  | zero _ _ hv => omega
  | tooLarge _ _ hv => omega

theorem readPort_eq_error_iff {s : String} {fault : PortFault} :
    readPort s = .error fault ↔ fault.Marks s := by
  refine ⟨PortFault.marks_of_readPort, fun h => ?_⟩
  cases hr : readPort s with
  | ok port => exact absurd (readPort_eq_ok_iff.mp hr).1 h.not_isPort
  | error fault' => rw [(PortFault.marks_of_readPort hr).unique h]

end port

theorem checkPort_eq_error_iff {s : String} {e : Failure} : checkPort s = .error e ↔
    ∃ fault : PortFault, fault.Marks s ∧ e = .invalidPort s fault.reason := by
  simp only [← readPort_eq_error_iff]
  unfold checkPort
  cases readPort s <;> simp [eq_comm]

theorem checkAccess_eq_error_iff {s : String} {e : Failure} : checkAccess s = .error e ↔
    (∀ level : AccessLevel, ¬ SameButForCase s level.name) ∧ e = .invalidAccessLevel (upper s) := by
  simp only [← AccessLevel.ofName?_eq_some_iff_same]
  rw [checkAccess_eq_readAccess, readAccess]
  cases AccessLevel.ofName? s <;> simp [eq_comm]

theorem nonEmpty?_eq_none_iff {s : String} : nonEmpty? s = none ↔ s = "" := by
  simp [nonEmpty?]

theorem nonEmpty?_of_ne {s : String} (h : s ≠ "") : nonEmpty? s = some s := by
  simp [nonEmpty?, h]

theorem IsProperName.ne_empty {s : String} (h : IsProperName s) : s ≠ "" := by
  rintro rfl
  exact absurd h.length.1 (by decide)

section request

/-- Is `a` what the request says, and every part of it in order? -/
structure Request.Says (r : Request) (a : CheckedRequest) : Prop where
  environment : a.environment = r.environment
  port : IsPort r.port ∧ a.port.toNat = Numeral.value 10 r.port.toList
  access : SameButForCase r.access a.access.name
  name : r.name = "" ∧ a.name = none ∨ IsProperName r.name ∧ a.name = some r.name

/-- The failure of a request that is not in order: that of the first field which is not. -/
inductive Request.Refused (r : Request) : Failure → Prop where
  | port {fault : PortFault} : ¬ IsPort r.port → fault.Marks r.port →
      Refused r (.invalidPort r.port fault.reason)
  | access : IsPort r.port → (∀ level : AccessLevel, ¬ SameButForCase r.access level.name) →
      Refused r (.invalidAccessLevel (upper r.access))
  | name {level : AccessLevel} : IsPort r.port → SameButForCase r.access level.name →
      r.name ≠ "" → ¬ IsProperName r.name → Refused r (.invalidName r.name)

namespace Request

variable {r : Request}

theorem check_ok_iff {a : CheckedRequest} : r.check = .ok a ↔ r.Says a := by
  rw [check_eq_ok_iff]
  constructor
  · rintro ⟨port, access, hp, ha, hn, rfl⟩
    refine ⟨rfl, readPort_eq_ok_iff.mp hp, AccessLevel.ofName?_eq_some_iff_same.mp ha, ?_⟩
    rcases isName_iff_isProperName.mp hn with hempty | hproper
    · exact .inl ⟨hempty, nonEmpty?_eq_none_iff.mpr hempty⟩
    · exact .inr ⟨hproper, nonEmpty?_of_ne hproper.ne_empty⟩
  · rintro ⟨henvironment, hport, haccess, hname⟩
    refine ⟨a.port, a.access, readPort_eq_ok_iff.mpr hport,
      AccessLevel.ofName?_eq_some_iff_same.mpr haccess, ?_, ?_⟩
    · exact isName_iff_isProperName.mpr (hname.imp And.left And.left)
    · have hkept : a.name = nonEmpty? r.name := by
        rcases hname with ⟨hempty, hnone⟩ | ⟨hproper, hsome⟩
        · rw [hnone, nonEmpty?_eq_none_iff.mpr hempty]
        · rw [hsome, nonEmpty?_of_ne hproper.ne_empty]
      rw [← henvironment, ← hkept]

theorem check_error_iff {e : Failure} : r.check = .error e ↔ r.Refused e := by
  unfold Request.check
  cases hp : checkPort r.port with
  | error e' =>
    obtain ⟨fault, hmarks, rfl⟩ := checkPort_eq_error_iff.mp hp
    have hport := hmarks.not_isPort
    simp only [Except.error.injEq]
    constructor
    · rintro rfl
      exact .port hport hmarks
    · rintro (⟨-, hmarks'⟩ | ⟨hport', -⟩ | ⟨hport', -, -, -⟩)
      · rw [hmarks.unique hmarks']
      · exact absurd hport' hport
      · exact absurd hport' hport
  | ok port =>
    have hport : IsPort r.port := (readPort_eq_ok_iff.mp (checkPort_eq_ok_iff.mp hp)).1
    cases ha : checkAccess r.access with
    | error e' =>
      obtain ⟨haccess, rfl⟩ := checkAccess_eq_error_iff.mp ha
      simp only [Except.error.injEq]
      constructor
      · rintro rfl
        exact .access hport haccess
      · rintro (⟨hport', -⟩ | - | ⟨-, hsame, -, -⟩)
        · exact absurd hport hport'
        · rfl
        · exact absurd hsame (haccess _)
    | ok access =>
      have haccess : SameButForCase r.access access.name :=
        AccessLevel.ofName?_eq_some_iff_same.mp (checkAccess_eq_ok_iff.mp ha)
      have hname := @isName_iff_isProperName r.name
      by_cases hn : isName r.name = true
      · simp only [hn, if_true, reduceCtorEq, false_iff]
        rintro (⟨hport', -⟩ | ⟨-, haccess'⟩ | ⟨-, -, hne, hproper⟩)
        · exact hport' hport
        · exact haccess' access haccess
        · exact (hname.mp hn).elim hne hproper
      · have hbad := not_or.mp fun h => hn (hname.mpr h)
        simp only [hn, if_false, Except.error.injEq, Bool.false_eq_true]
        constructor
        · rintro rfl
          exact .name hport haccess hbad.1 hbad.2
        · rintro (⟨hport', -⟩ | ⟨-, haccess'⟩ | -)
          · exact absurd hport hport'
          · exact absurd haccess (haccess' access)
          · rfl

/-- Some record is let through for a request in order. -/
theorem exists_says_iff : (∃ a, r.Says a) ↔ IsPort r.port ∧
    (∃ level : AccessLevel, SameButForCase r.access level.name) ∧
    (r.name = "" ∨ IsProperName r.name) := by
  constructor
  · rintro ⟨a, -, ⟨hport, -⟩, haccess, hname⟩
    exact ⟨hport, ⟨a.access, haccess⟩, hname.imp And.left And.left⟩
  · rintro ⟨hport, ⟨level, haccess⟩, hname⟩
    obtain ⟨port, hp⟩ := exists_readPort_iff.mpr hport
    have hchecked := check_eq_ok_iff.mpr ⟨port, level, hp,
      AccessLevel.ofName?_eq_some_iff_same.mpr haccess, isName_iff_isProperName.mpr hname, rfl⟩
    exact ⟨_, check_ok_iff.mp hchecked⟩

theorem check_elsewhere (r : Request) (name : String) :
    ({ r with environment := name } : Request).check =
      r.check.map fun a => { a with environment := name } := by
  simp only [Request.check]
  cases checkPort r.port with
  | error e => rfl
  | ok port =>
    cases checkAccess r.access with
    | error e => rfl
    | ok access => by_cases hn : isName r.name = true <;> simp [hn, Except.map]

end Request

/-- A request is let through just when its port is a numeral from 1 to 65535, its access level is
one of the four but for the case of letters, and its name is empty or proper. What is let through
says what the request says; otherwise the first field that is not in order is the failure. The
environment has no part in it. -/
theorem Request.check_exact (r : Request) :
    ((∃ a, r.check = .ok a) ↔ IsPort r.port ∧
      (∃ level : AccessLevel, SameButForCase r.access level.name) ∧
      (r.name = "" ∨ IsProperName r.name)) ∧
    (∀ a, r.check = .ok a ↔ r.Says a) ∧
    (∀ e, r.check = .error e ↔ r.Refused e) ∧
    ∀ name, ({ r with environment := name } : Request).check =
      r.check.map fun a => { a with environment := name } := by
  refine ⟨?_, fun a => check_ok_iff, fun e => check_error_iff, r.check_elsewhere⟩
  simp only [check_ok_iff]
  exact exists_says_iff

end request

end PortShare
