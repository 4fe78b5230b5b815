import Mathlib.Data.List.Forall2
import PortShare.Proofs.Json.Skipping

/-! What readers make of values that they may not be for. The first byte of a value tells its kind,
so a reader that finds another kind refuses; each way to build a reader keeps what is read exact. -/

namespace PortShare.Json

/-- The first byte of a value tells its kind. -/
structure Heads (t : Term) (b : UInt8) : Prop where
  blank : isBlank b = false
  null : b = 110 ↔ t = .null
  text : b = 34 ↔ ∃ s, t = .text s
  number : b = 45 ∨ isDigit b = true ↔ ∃ minus l, t = .number minus l
  list : b = 91 ↔ ∃ ts, t = .list ts
  object : b = 123 ↔ ∃ ms, t = .object ms

theorem Writes.heads {t : Term} {bs : Bytes} (h : Writes t bs) :
    ∃ b tail, bs = b :: tail ∧ Heads t b := by
  cases h with
  | number h =>
    obtain ⟨b, tail, rfl, hb⟩ := h.eq_cons
    have other {c : UInt8} : isDigit c = false → b ≠ c := ne_of_isDigit hb
    obtain ⟨_, _, he, hblank, -, -⟩ := (Writes.number h).begins
    obtain ⟨rfl, -⟩ := List.cons.inj he
    refine ⟨b, tail, rfl, hblank, ?_, ?_, ?_, ?_, ?_⟩
    · simp [other (c := 110) (by decide)]
    · simp [other (c := 34) (by decide)]
    · simp [hb]
    · simp [other (c := 91) (by decide)]
    · simp [other (c := 123) (by decide)]
  | _ =>
    refine ⟨_, _, rfl, by decide, ?_, ?_, ?_, ?_, ?_⟩
    all_goals simp [isDigit]

def IsText (t : Term) (s : String) : Prop := t = .text s

/-- A text, or `null` for none. -/
def IsOptionalText (t : Term) (o : Option String) : Prop :=
  t = .null ∧ o = none ∨ ∃ s, t = .text s ∧ o = some s

/-- A number that is written by its digits alone. -/
def IsUnsigned16 (t : Term) (n : UInt16) : Prop :=
  ∃ ds, t = .number false ⟨ds, none, none⟩ ∧ Literal.value ds = n.toNat

namespace Reader

variable {α β : Type}

/-- The reader takes the values that `R` tells of, and no others, however they are written. -/
structure Exact (r : Reader α) (R : Term → α → Prop) : Prop where
  accepts : ∀ {t a}, R t a → r.Accepts t a
  sound : ∀ {t blank bs rest a after}, Blank blank → Writes t bs → Ends rest →
    r.run (blank ++ (bs ++ rest)) = .ok (a, after) → R t a

theorem Exact.run_eq_ok_iff {r : Reader α} {R : Term → α → Prop} (h : r.Exact R) {t : Term}
    {blank bs rest after : Bytes} {a : α} (hw : Blank blank) (ht : Writes t bs) (hr : Ends rest) :
    r.run (blank ++ (bs ++ rest)) = .ok (a, after) ↔ R t a ∧ after = rest := by
  constructor
  · intro ha
    have hR := h.sound hw ht hr ha
    have := h.accepts hR _ _ _ hw ht hr
    rw [ha] at this
    cases this
    exact ⟨hR, rfl⟩
  · rintro ⟨hR, rfl⟩
    exact h.accepts hR _ _ _ hw ht hr

theorem Exact.congr {r : Reader α} {R S : Term → α → Prop} (h : r.Exact R)
    (hs : ∀ t a, R t a ↔ S t a) : r.Exact S where
  accepts hS := h.accepts ((hs _ _).mpr hS)
  sound hw ht hr ha := (hs _ _).mp (h.sound hw ht hr ha)

section scalar

theorem exact_text : text.Exact IsText where
  accepts := by
    rintro _ s rfl
    exact accepts_text s
  sound := by
    intro t blank bs rest s after hw ht hr h
    obtain ⟨b, tail, rfl, hb⟩ := ht.heads
    by_cases h34 : b = 34
    · obtain ⟨s', rfl⟩ := hb.text.mp h34
      rw [accepts_text s' _ _ _ hw ht hr] at h
      cases h
      rfl
    · change runText _ = _ at h
      rw [List.cons_append] at h
      simp only [runText, skipBlank_append_cons hw hb.blank, h34, if_false, reduceCtorEq] at h

theorem exact_optionalText : optionalText.Exact IsOptionalText where
  accepts := by
    rintro t o (⟨rfl, rfl⟩ | ⟨s, rfl, rfl⟩)
    · exact accepts_optionalText_null
    · exact accepts_optionalText s
  sound := by
    intro t blank bs rest o after hw ht hr h
    obtain ⟨b, tail, hbs, hb⟩ := ht.heads
    by_cases h110 : b = 110
    · obtain rfl := hb.null.mp h110
      rw [accepts_optionalText_null _ _ _ hw ht hr] at h
      cases h
      exact .inl ⟨rfl, rfl⟩
    · change runOptionalText _ = _ at h
      subst hbs
      rw [List.cons_append] at h
      simp only [runOptionalText, skipBlank_append_cons hw hb.blank, h110, if_false] at h
      obtain ⟨⟨s, after'⟩, hs, he⟩ := ok_of_map h
      cases he
      exact .inr ⟨s, exact_text.sound blank_nil ht hr hs, rfl⟩

theorem exact_unsigned16 : unsigned16.Exact IsUnsigned16 where
  accepts := by
    rintro t n ⟨ds, rfl, hn⟩
    have := accepts_unsigned16 (show Literal.value ds < 65536 by rw [hn]; exact n.toNat_lt)
    rwa [hn, show n.toNat.toUInt16 = n from UInt16.ofNat_toNat] at this
  sound := by
    intro t blank bs rest n after hw ht hr h
    change runUnsigned16 _ = _ at h
    obtain ⟨b, tail, rfl, hb⟩ := ht.heads
    rw [List.cons_append] at h
    by_cases hn : b = 45 ∨ isDigit b = true
    · obtain ⟨minus, l, rfl⟩ := hb.number.mp hn
      simp only [runUnsigned16, skipBlank_append_cons hw hb.blank, hn, if_true] at h
      split at h
      · cases h
      · next m after' hm =>
        obtain ⟨rfl, ds, rfl, hds⟩ :=
          Literal.eq_of_number_natural ((readNumber_eq_ok_iff ht hr).mp hm).1
        split at h
        · next hlt =>
          cases h
          refine ⟨ds, rfl, ?_⟩
          rw [hds, Nat.toUInt16, UInt16.toNat_ofNat', Nat.mod_eq_of_lt hlt]
        · cases h
      · cases h
      · cases h
    · simp only [runUnsigned16, skipBlank_append_cons hw hb.blank, hn, if_false,
        reduceCtorEq] at h

theorem exact_skip : skip.Exact fun _ _ => True where
  accepts := by
    intro t a _ blank bs rest hw ht hr
    change runSkip _ = _
    rw [runSkip, ht.skipValue hw hr]
    rfl
  sound := fun _ _ _ _ => trivial

end scalar

theorem Exact.map {r : Reader α} {R : Term → α → Prop} (h : r.Exact R) (f : α → β) :
    (r.map f).Exact fun t b => ∃ a, R t a ∧ f a = b where
  accepts := by
    rintro t b ⟨a, hR, rfl⟩
    exact (h.accepts hR).map f
  sound := by
    intro t blank bs rest b after hw ht hr hb
    obtain ⟨⟨a, after'⟩, ha, he⟩ := ok_of_map hb
    cases he
    exact ⟨a, h.sound hw ht hr ha, rfl⟩

theorem Exact.refine {r : Reader α} {R : Term → α → Prop} (h : r.Exact R)
    (f : α → Except Cause β) : (r.refine f).Exact fun t b => ∃ a, R t a ∧ f a = .ok b where
  accepts := by
    rintro t b ⟨a, hR, hf⟩
    exact (h.accepts hR).refine hf
  sound := by
    intro t blank bs rest b after hw ht hr hb
    change runRefine f r _ = _ at hb
    unfold runRefine at hb
    split at hb
    · cases hb
    · next a after' ha =>
      split at hb
      · next b' hf =>
        cases hb
        exact ⟨a, h.sound hw ht hr ha, hf⟩
      · cases hb

/-- Between a colon and what ends the value, the reader takes the same values. -/
theorem Exact.afterColon {r : Reader α} {R : Term → α → Prop} (h : r.Exact R) {t : Term}
    {bs rest after : Bytes} {a : α} (ht : WritesValue t bs) (hr : Ends rest) :
    r.afterColon.run (bs ++ rest) = .ok (a, after) ↔ R t a ∧ after = rest := by
  obtain ⟨hw, hw', ht⟩ := ht
  change runAfterColon r _ = _ ↔ _
  rw [List.append_assoc, List.cons_append, List.append_assoc]
  simp only [runAfterColon, skipBlank_append_cons hw (show isBlank 58 = false by decide), if_true]
  exact h.run_eq_ok_iff hw' ht hr

theorem Exact.afterColon_map {r : Reader α} {R : Term → α → Prop} (h : r.Exact R) (f : α → β)
    {t : Term} {bs rest after : Bytes} {b : β} (ht : WritesValue t bs) (hr : Ends rest) :
    (r.afterColon.map f).run (bs ++ rest) = .ok (b, after) ↔
      (∃ a, R t a ∧ f a = b) ∧ after = rest := by
  constructor
  · intro hb
    obtain ⟨⟨a, after'⟩, ha, he⟩ := ok_of_map hb
    cases he
    obtain ⟨hR, rfl⟩ := (h.afterColon ht hr).mp ha
    exact ⟨⟨a, hR, rfl⟩, rfl⟩
  · rintro ⟨⟨a, hR, rfl⟩, rfl⟩
    change runMap f r.afterColon _ = _
    rw [runMap, (h.afterColon ht hr).mpr ⟨hR, rfl⟩]
    rfl

section list

/-- The items that are read off a list are those of the list, up to its end. -/
theorem Exact.items_eq_ok_iff {item : Reader α} {R : Term → α → Prop} (h : item.Exact R)
    {ts : List Term} {rest after : Bytes} :
    ∀ {first : Bool} {bs : Bytes} {as : List α}, WritesItems first ts bs →
      (items item first (bs ++ rest) = .ok (as, after) ↔
        List.Forall₂ R ts as ∧ after = rest) := by
  induction ts with
  | nil =>
    intro first bs as hb
    cases hb with
    | nil hw =>
      rw [List.append_assoc, List.singleton_append, items_of_end (nextItem_end hw rest),
        List.forall₂_nil_left_iff]
      simp [eq_comm]
  | cons t ts ih =>
    intro first bs as hb
    have of_next {bs' tail : Bytes} (ht : Writes t bs') (hts : WritesItems false ts tail)
        (hn : nextItem first (bs ++ rest) = .ok (true, bs' ++ (tail ++ rest))) :
        items item first (bs ++ rest) = .ok (as, after) ↔
          List.Forall₂ R (t :: ts) as ∧ after = rest := by
      have hrun {a : α} {r : Bytes} :
          item.run (bs' ++ (tail ++ rest)) = .ok (a, r) ↔ R t a ∧ r = tail ++ rest :=
        h.run_eq_ok_iff blank_nil ht (hts.ends rest)
      simp only [items_of_next hn, hrun]
      constructor
      · rintro ⟨a, _, as', ⟨hR, rfl⟩, has, rfl⟩
        obtain ⟨hts', rfl⟩ := (ih hts).mp has
        exact ⟨.cons hR hts', rfl⟩
      · rintro ⟨hall, rfl⟩
        cases hall with
        | cons hR hts' => exact ⟨_, _, _, ⟨hR, rfl⟩, (ih hts).mpr ⟨hts', rfl⟩, rfl⟩
    cases hb with
    | first hw ht hts =>
      refine of_next ht hts ?_
      rw [List.append_assoc, List.append_assoc]
      exact nextItem_first hw (ht.begins.append _)
    | next hw hw' ht hts =>
      refine of_next ht hts ?_
      rw [List.append_assoc, List.cons_append, List.append_assoc, List.append_assoc]
      exact nextItem_next hw hw' (ht.begins.append _)

theorem Exact.list {item : Reader α} {R : Term → α → Prop} (h : item.Exact R) :
    item.list.Exact fun t as => ∃ ts, t = .list ts ∧ List.Forall₂ R ts as where
  accepts := by
    rintro _ as ⟨ts, rfl, hall⟩ blank bs rest hw ht hr
    cases ht with
    | list hts =>
      change runList item _ = _
      simp only [runList, List.cons_append,
        skipBlank_append_cons hw (show isBlank 91 = false by decide), if_true,
        (h.items_eq_ok_iff hts).mpr ⟨hall, rfl⟩]
      rfl
  sound := by
    intro t blank bs rest as after hw ht hr has
    change runList item _ = _ at has
    obtain ⟨b, tail, hbs, hb⟩ := ht.heads
    by_cases h91 : b = 91
    · obtain ⟨ts, rfl⟩ := hb.list.mp h91
      cases ht with
      | list hts =>
        simp only [runList, List.cons_append,
          skipBlank_append_cons hw (show isBlank 91 = false by decide), if_true] at has
        exact ⟨ts, rfl, ((h.items_eq_ok_iff hts).mp (place_eq_ok has)).1⟩
    · subst hbs
      rw [List.cons_append] at has
      simp only [runList, skipBlank_append_cons hw hb.blank, h91, if_false, reduceCtorEq] at has

end list

/-- A whole text is read as the value that it writes. -/
theorem Exact.readAll_eq_ok_iff {r : Reader α} {R : Term → α → Prop} (h : r.Exact R) {t : Term}
    {bs : Bytes} {a : α} (hd : Document t bs) : r.readAll bs = .ok a ↔ R t a := by
  obtain ⟨hw, ht, hw'⟩ := hd
  have hends := ends_blank hw' ends_nil
  rw [List.append_nil] at hends
  constructor
  · intro ha
    unfold readAll at ha
    split at ha
    · cases ha
    · next a' after hrun =>
      split at ha
      · cases ha
        exact h.sound hw ht hends hrun
      · cases ha
  · intro hR
    rw [readAll, h.accepts hR _ _ _ hw ht hends]
    simp only [skipBlank_eq_nil hw']

theorem run_refine_of_error {r : Reader α} {f : α → Except Cause β} {bs rest : Bytes} {a : α}
    {cause : Cause} (ha : r.run bs = .ok (a, rest)) (hf : f a = .error cause) :
    (r.refine f).run bs = .error (.unplaced cause rest) := by
  change runRefine f r _ = _
  simp only [runRefine, ha, hf]

/-- A value that is read and then refused is refused without a place, if nothing stands around it. -/
theorem Accepts.readAll_refine_of_error {r : Reader α} {f : α → Except Cause β} {t : Term} {a : α}
    {cause : Cause} {bs : Bytes} (h : r.Accepts t a) (hf : f a = .error cause)
    (hd : Document t bs) : (r.refine f).readAll bs = .error ⟨cause, none⟩ := by
  obtain ⟨hw, ht, hw'⟩ := hd
  have hends := ends_blank hw' ends_nil
  rw [List.append_nil] at hends
  rw [readAll, run_refine_of_error (h _ _ _ hw ht hends) hf]
  rfl

end Reader

end PortShare.Json
