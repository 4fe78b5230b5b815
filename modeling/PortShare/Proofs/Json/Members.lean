import PortShare.Proofs.Json.Reading

/-! Objects. Members are read into a draft one after the other, each as the grammar has it, and what
they make of the draft tells them. -/

namespace PortShare.Json

section leads

variable {δ : Type}

/-- Each member, one after the other, makes of the draft what `step` tells of it. -/
inductive Leads (step : String → Term → δ → δ → Prop) : δ → List (String × Term) → δ → Prop where
  | nil {d : δ} : Leads step d [] d
  | cons {d d' d'' : δ} {key : String} {t : Term} {ms : List (String × Term)} :
      step key t d d' → Leads step d' ms d'' → Leads step d ((key, t) :: ms) d''

variable {step : String → Term → δ → δ → Prop} {d d' : δ}

theorem leads_nil_iff : Leads step d [] d' ↔ d = d' := by
  constructor
  · rintro ⟨⟩
    rfl
  · rintro rfl
    exact .nil

theorem leads_cons_iff {key : String} {t : Term} {ms : List (String × Term)} :
    Leads step d ((key, t) :: ms) d' ↔ ∃ d₁, step key t d d₁ ∧ Leads step d₁ ms d' := by
  constructor
  · intro h
    cases h with
    | cons hs hl => exact ⟨_, hs, hl⟩
  · rintro ⟨d₁, hs, hl⟩
    exact .cons hs hl

end leads

namespace Reader

variable {δ : Type} {member : String → δ → Reader δ}

theorem nextKey_end {first : Bool} {blank : Bytes} (hw : Blank blank) (rest : Bytes) :
    nextKey first (blank ++ 125 :: rest) = .ok (none, rest) := by
  simp only [nextKey, skipBlank_append_cons hw (show isBlank 125 = false by decide), if_true]

theorem key_of_text {key : String} {bs : Bytes} (h : WritesText key bs) (rest : Bytes) :
    nextKey.key (34 :: (bs ++ rest)) = .ok (some key, rest) := by
  simp only [nextKey.key, if_true, h.readText]
  rfl

theorem nextKey_first {key : String} {blank bs : Bytes} (hw : Blank blank)
    (h : WritesText key bs) (rest : Bytes) :
    nextKey true (blank ++ 34 :: (bs ++ rest)) = .ok (some key, rest) := by
  simp only [nextKey, skipBlank_append_cons hw (show isBlank 34 = false by decide),
    show (34 : UInt8) ≠ 125 by decide, if_true, if_false, key_of_text h]

theorem nextKey_next {key : String} {blank blank' bs : Bytes} (hw : Blank blank)
    (hw' : Blank blank') (h : WritesText key bs) (rest : Bytes) :
    nextKey false (blank ++ 44 :: (blank' ++ 34 :: (bs ++ rest))) = .ok (some key, rest) := by
  simp only [nextKey, skipBlank_append_cons hw (show isBlank 44 = false by decide),
    skipBlank_append_cons hw' (show isBlank 34 = false by decide),
    show (44 : UInt8) ≠ 125 by decide, show (34 : UInt8) ≠ 125 by decide, if_true, if_false,
    Bool.false_eq_true, key_of_text h]

theorem members_of_end {first : Bool} {d : δ} {bs rest : Bytes}
    (h : nextKey first bs = .ok (none, rest)) : members member first d bs = .ok (d, rest) := by
  rw [members]
  split <;> simp_all

theorem members_of_key {first : Bool} {d d' : δ} {key : String} {bs bs' after : Bytes}
    (hk : nextKey first bs = .ok (some key, bs')) :
    members member first d bs = .ok (d', after) ↔
      ∃ d₁ rest, (member key d).run bs' = .ok (d₁, rest) ∧
        members member false d₁ rest = .ok (d', after) := by
  rw [members]
  split
  · simp_all
  · simp_all
  · next hk' =>
    rw [hk] at hk'
    cases hk'
    split
    · simp_all
    · next d₁ rest hm =>
      constructor
      · intro h
        exact ⟨d₁, rest, hm, h⟩
      · rintro ⟨_, _, hm', h⟩
        rw [hm] at hm'
        cases hm'
        exact h

/-- The members that are read off an object lead to the draft, up to its end. -/
theorem members_eq_ok_iff {step : String → Term → δ → δ → Prop} {ms : List (String × Term)}
    {d' : δ} {rest after : Bytes}
    (h : ∀ {key t d d' bs rest after}, WritesValue t bs → Ends rest →
      ((member key d).run (bs ++ rest) = .ok (d', after) ↔ step key t d d' ∧ after = rest)) :
    ∀ {first : Bool} {d : δ} {bs : Bytes}, WritesMembers first ms bs →
      (members member first d (bs ++ rest) = .ok (d', after) ↔
        Leads step d ms d' ∧ after = rest) := by
  induction ms with
  | nil =>
    intro first d bs hb
    cases hb with
    | nil hw =>
      rw [List.append_assoc, List.singleton_append, members_of_end (nextKey_end hw rest),
        leads_nil_iff]
      simp [eq_comm]
  | cons m ms ih =>
    intro first d bs hb
    have of_key {key : String} {t : Term} {v tail : Bytes} (hv : WritesValue t v)
        (hms : WritesMembers false ms tail)
        (hk : nextKey first (bs ++ rest) = .ok (some key, v ++ (tail ++ rest))) :
        members member first d (bs ++ rest) = .ok (d', after) ↔
          Leads step d ((key, t) :: ms) d' ∧ after = rest := by
      simp only [members_of_key hk, leads_cons_iff, h hv (hms.ends rest)]
      constructor
      · rintro ⟨d₁, _, ⟨hs, rfl⟩, hd⟩
        obtain ⟨hl, rfl⟩ := (ih hms).mp hd
        exact ⟨⟨d₁, hs, hl⟩, rfl⟩
      · rintro ⟨⟨d₁, hs, hl⟩, rfl⟩
        exact ⟨d₁, _, ⟨hs, rfl⟩, (ih hms).mpr ⟨hl, rfl⟩⟩
    cases hb with
    | first hw hk hv hms =>
      refine of_key hv hms ?_
      rw [List.append_assoc, List.cons_append, List.append_assoc, List.append_assoc]
      exact nextKey_first hw hk _
    | next hw hw' hk hv hms =>
      refine of_key hv hms ?_
      rw [List.append_assoc, List.cons_append, List.append_assoc, List.cons_append,
        List.append_assoc, List.append_assoc]
      exact nextKey_next hw hw' hk _

end Reader

end PortShare.Json
