import PortShare.Proofs.Admission
import PortShare.Proofs.Wire

/-! A level is one and the same however it is asked for: typed, checked, or sent as JSON with any of
its letters escaped. It is told by its name in letters of either case, and by nothing else. -/

namespace PortShare

section letters

/-- `d` is the capital of a small letter `c`, and every other character is left as it is. -/
def IsCapitalOf (c d : Char) : Prop :=
  ('a' ≤ c ∧ c ≤ 'z') ∧ c.toNat = d.toNat + 32 ∨ ¬ ('a' ≤ c ∧ c ≤ 'z') ∧ d = c

/-- The text `t` is `s` with its small letters made capitals. -/
def InCapitals (s t : String) : Prop := List.Forall₂ IsCapitalOf s.toList t.toList

theorem isCapitalOf_toUpper (c : Char) : IsCapitalOf c c.toUpper := by
  have hsmall : 'a' ≤ c ∧ c ≤ 'z' ↔ 97 ≤ c.toNat ∧ c.toNat ≤ 122 := by
    simp only [Char.le_def, UInt32.le_iff_toNat_le]
    rfl
  have hupper := toNat_toUpper c
  rw [IsCapitalOf, hsmall, ← Char.toNat_inj]
  split at hupper <;> omega

theorem inCapitals_upper (s : String) : InCapitals s (upper s) := by
  rw [InCapitals, upper, String.toList_ofList, List.forall₂_map_right_iff, List.forall₂_same]
  exact fun c _ => isCapitalOf_toUpper c

theorem SameLetter.isLetter {c d : Char} (h : SameLetter c d) (hd : IsLetter d) : IsLetter c := by
  rcases h with rfl | ⟨hc, -, -⟩
  · exact hd
  · exact hc

theorem isLetter_of_same {cs ds : List Char} (h : List.Forall₂ SameLetter cs ds)
    (hd : ∀ d ∈ ds, IsLetter d) : ∀ c ∈ cs, IsLetter c := by
  induction h with
  | nil => exact nofun
  | cons hcd _ ih =>
    rw [List.forall_mem_cons] at hd ⊢
    exact ⟨hcd.isLetter hd.1, ih hd.2⟩

theorem AccessLevel.isLetter_name (level : AccessLevel) : ∀ c ∈ level.name.toList, IsLetter c := by
  have hname : level.name.toList.all Char.isAlpha = true := by cases level <;> decide
  exact fun c hc => isAlpha_iff.mp (List.all_eq_true.mp hname c hc)

end letters

namespace AccessLevel

section typed

variable {s : String}

theorem readAccess_eq_ok_iff {level : AccessLevel} :
    readAccess s = .ok level ↔ SameButForCase s level.name := by
  rw [← ofName?_eq_some_iff_same, readAccess]
  cases ofName? s <;> simp

theorem isAccessLevel_iff :
    isAccessLevel s = true ↔ ∃ level : AccessLevel, SameButForCase s level.name := by
  simp only [isAccessLevel, Option.isSome_iff_exists, ofName?_eq_some_iff_same]

theorem ofName?_eq_none_iff :
    ofName? s = none ↔ ∀ level : AccessLevel, ¬ SameButForCase s level.name := by
  simp only [Option.eq_none_iff_forall_ne_some, ne_eq, ofName?_eq_some_iff_same]

theorem check_error_iff_isPort {r : Request}
    (h : ∀ level : AccessLevel, ¬ SameButForCase r.access level.name) :
    r.check = .error (.invalidAccessLevel (upper r.access)) ↔ IsPort r.port := by
  rw [Request.check_error_iff]
  constructor
  · rintro ⟨⟩
    assumption
  · intro hport
    exact .access hport h

end typed

section sent

variable {s : String} {bs : Bytes}

theorem isAccess_text_iff {level : AccessLevel} :
    IsAccess (.text s) level ↔ SameButForCase s level.name := by
  rw [← ofName?_eq_some_iff_same, ofName?_eq_some_iff]
  constructor
  · rintro ⟨_, ⟨⟩, h⟩
    exact h
  · intro h
    exact ⟨s, rfl, h⟩

theorem readAll_eq_ok_iff (h : Json.Document (.text s) bs) {level : AccessLevel} :
    reader.readAll bs = .ok level ↔ SameButForCase s level.name :=
  (exact.readAll_eq_ok_iff h).trans isAccess_text_iff

theorem readAll_of_unknown (h : Json.Document (.text s) bs)
    (hs : ∀ level : AccessLevel, ¬ SameButForCase s level.name) :
    reader.readAll bs = .error ⟨.refused ("unknown access level " ++ quote s), none⟩ := by
  refine (Json.Reader.accepts_text s).readAll_refine_of_error ?_ h
  rw [ofName?_eq_none_iff.mpr hs]

theorem readAll_render (level : AccessLevel) :
    reader.readAll (Utf8.bytes level.toJson.render) = .ok level :=
  (exact.readAll_eq_ok_iff (Json.Value.Says.document (.text _))).mpr (isAccess_name level)

end sent

end AccessLevel

end PortShare
