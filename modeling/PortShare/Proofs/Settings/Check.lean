import PortShare.Proofs.Settings.Token

/-! Settings that are in order. Each is the first that is given, and the first is the one judged: no
other value of it counts, whether it would be in order or not. -/

namespace PortShare

/-- Is the text a URL of a service, which is reached over HTTP? -/
def IsServiceUrl (s : String) : Prop :=
  ∃ url, Url.read s = .ok url ∧ (url.scheme = "http".toList ∨ url.scheme = "https".toList)

/-- Failures of configuration, at which the program ends with a code of its own. -/
def Failure.IsConfiguration (e : Failure) : Prop := ∃ message, e = .configuration message

theorem Failure.IsConfiguration.exitCode {e : Failure} (h : e.IsConfiguration) :
    e.exitCode = 2 := by
  obtain ⟨message, rfl⟩ := h
  rfl

theorem IsServiceUrl.ne_empty {s : String} (h : IsServiceUrl s) : s ≠ "" := by
  rintro rfl
  obtain ⟨url, hurl, -⟩ := h
  cases hurl

theorem requireUrl_eq_ok_iff {field s : String} :
    requireUrl field s = .ok () ↔ IsServiceUrl s := by
  unfold requireUrl
  split
  · next hs =>
    simp only [reduceCtorEq, false_iff]
    intro h
    exact h.ne_empty (String.isEmpty_iff.mp hs)
  · cases hr : Url.read s with
    | error fault => simp [IsServiceUrl, hr]
    | ok url =>
      have same {t : String} : String.ofList url.scheme = t ↔ url.scheme = t.toList := by
        rw [← String.toList_inj, String.toList_ofList]
      have hscheme : (String.ofList url.scheme == "http" || String.ofList url.scheme == "https") =
          true ↔ url.scheme = "http".toList ∨ url.scheme = "https".toList := by
        rw [Bool.or_eq_true, beq_iff_eq, beq_iff_eq, same, same]
      simp only [IsServiceUrl, hr, Except.ok.injEq, exists_eq_left', ← hscheme]
      split <;> simp [*]

theorem isConfiguration_of_requireUrl {field s : String} {e : Failure}
    (h : requireUrl field s = .error e) : e.IsConfiguration := by
  unfold requireUrl at h
  split at h
  · exact ⟨_, (Except.error.inj h).symm⟩
  · split at h
    · exact ⟨_, (Except.error.inj h).symm⟩
    · dsimp only at h
      split at h
      · cases h
      · exact ⟨_, (Except.error.inj h).symm⟩

theorem requireText_eq_ok_iff {field s : String} :
    requireText field s = .ok () ↔ ¬ IsBlank s := by
  unfold requireText IsBlank
  split <;> simp [*]

theorem isConfiguration_of_requireText {field s : String} {e : Failure}
    (h : requireText field s = .error e) : e.IsConfiguration := by
  unfold requireText at h
  split at h
  · exact ⟨_, (Except.error.inj h).symm⟩
  · cases h

theorem requireRange_eq_ok_iff {field : String} {value low high : Int} :
    requireRange field value low high = .ok () ↔ low ≤ value ∧ value ≤ high := by
  unfold requireRange
  split
  · simp only [reduceCtorEq, false_iff]
    omega
  · simp only [true_iff]
    omega

theorem isConfiguration_of_requireRange {field : String} {value low high : Int} {e : Failure}
    (h : requireRange field value low high = .error e) : e.IsConfiguration := by
  unfold requireRange at h
  split at h
  · exact ⟨_, (Except.error.inj h).symm⟩
  · cases h

namespace Settings

/-- Are all settings in order? -/
structure InOrder (s : Settings) : Prop where
  url : IsServiceUrl s.url
  token : ¬ IsBlank s.token
  timeout : 1 ≤ s.timeout.toNat ∧ s.timeout.toNat ≤ maxTimeout

theorem check_eq_ok_iff {s : Settings} : s.check = .ok () ↔ s.InOrder := by
  have hrange : requireRange "service.timeout_seconds" s.timeout.toNat 1 maxTimeout = .ok () ↔
      1 ≤ s.timeout.toNat ∧ s.timeout.toNat ≤ maxTimeout := by
    rw [requireRange_eq_ok_iff]
    omega
  unfold check
  split
  · next e h =>
    simp only [reduceCtorEq, false_iff]
    intro hs
    rw [requireUrl_eq_ok_iff.mpr hs.url] at h
    cases h
  · next hurl =>
    split
    · next e h =>
      simp only [reduceCtorEq, false_iff]
      intro hs
      rw [requireText_eq_ok_iff.mpr hs.token] at h
      cases h
    · next htoken =>
      rw [hrange]
      constructor
      · intro htimeout
        exact ⟨requireUrl_eq_ok_iff.mp hurl, requireText_eq_ok_iff.mp htoken, htimeout⟩
      · intro hs
        exact hs.timeout

theorem merge_eq_ok_iff {given : GivenSettings} {file : FileSettings} {s : Settings} :
    merge given file = .ok s ↔ (given.url <|> file.url) = some s.url ∧
      (given.token <|> file.token) = some s.token ∧
      (given.timeout <|> file.timeout).getD defaultTimeout = s.timeout := by
  obtain ⟨url, token, timeout⟩ := s
  unfold merge
  cases given.url <|> file.url with
  | none => simp
  | some url' =>
    cases given.token <|> file.token with
    | none => simp
    | some token' => simp

theorem isConfiguration_of_merge {given : GivenSettings} {file : FileSettings} {e : Failure}
    (h : merge given file = .error e) : e.IsConfiguration := by
  unfold merge at h
  split at h
  · exact ⟨_, (Except.error.inj h).symm⟩
  · split at h
    · exact ⟨_, (Except.error.inj h).symm⟩
    · cases h

theorem isConfiguration_of_check {s : Settings} {e : Failure} (h : s.check = .error e) :
    e.IsConfiguration := by
  unfold check at h
  split at h
  · next hurl => exact Except.error.inj h ▸ isConfiguration_of_requireUrl hurl
  · split at h
    · next htext => exact Except.error.inj h ▸ isConfiguration_of_requireText htext
    · exact isConfiguration_of_requireRange h

end Settings

end PortShare
