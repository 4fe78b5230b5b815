import Mathlib.Data.List.Nodup
import PortShare.Proofs.Json.Exact

/-! Records are read exactly: from an object, whose members are read one after the other, or from a
list of the fields. A member that is no field is passed over; a field is read only once. -/

namespace PortShare.Json

/-- A field, the place in the draft that it fills, and what the values are that it is read from. -/
structure Slot (δ : Type) where
  Content : Type
  field : Field δ
  get : δ → Option Content
  set : Content → δ → δ
  Is : Term → Content → Prop
  get_set : ∀ a d, get (set a d) = some a
  taken : ∀ d, field.taken d = (get d).isSome
  exact : field.read.Exact fun t put => ∃ a, Is t a ∧ set a = put

/-- The slot of a field that must be there, with what `r` reads in it. -/
def Slot.required {δ β : Type} {r : Reader β} {Is : Term → β → Prop} (key : String)
    (get : δ → Option β) (set : β → δ → δ) (h : ∀ a d, get (set a d) = some a) (hr : r.Exact Is) :
    Slot δ where
  Content := β
  field := ⟨key, false, fun d => (get d).isSome, r.map set⟩
  get := get
  set := set
  Is := Is
  get_set := h
  taken _ := rfl
  exact := hr.map set

/-- What a member makes of a draft: one that is no field leaves it, and a field is filled once. -/
def Takes {δ : Type} (slots : List (Slot δ)) (key : String) (t : Term) (d d' : δ) : Prop :=
  match slots.find? fun s => s.field.key == key with
  | none => d = d'
  | some s => s.get d = none ∧ ∃ a, s.Is t a ∧ s.set a d = d'

/-- What the items of a list make of a draft, if they are the fields in their order. -/
inductive Places {δ : Type} : List (Slot δ) → δ → List Term → δ → Prop where
  | short {ss : List (Slot δ)} {d : δ} : (∀ s ∈ ss, s.field.optional = true) → Places ss d [] d
  | next {s : Slot δ} {ss : List (Slot δ)} {a : s.Content} {d d' : δ} {t : Term}
      {ts : List Term} : s.Is t a → Places ss (s.set a d) ts d' → Places (s :: ss) d (t :: ts) d'

/-- A list does not end before a field that may not be left out. -/
theorem Places.exists_cons {δ : Type} {s : Slot δ} {ss : List (Slot δ)} {d d' : δ}
    {ts : List Term} (h : Places (s :: ss) d ts d')
    (hs : ∃ r ∈ s :: ss, r.field.optional = false) :
    ∃ t ts' a, ts = t :: ts' ∧ s.Is t a ∧ Places ss (s.set a d) ts' d' := by
  cases h with
  | short hall =>
    obtain ⟨r, hr, ho⟩ := hs
    rw [hall r hr] at ho
    cases ho
  | next ha h => exact ⟨_, _, _, rfl, ha, h⟩

/-- What a record makes of a value. -/
inductive Shape.Means {δ α : Type} (shape : Shape δ α) (slots : List (Slot δ)) :
    Term → α → Prop where
  | object {ms : List (String × Term)} {d : δ} {a : α} :
      Leads (Takes slots) shape.blank ms d → shape.finish d = .ok a →
      Shape.Means shape slots (.object ms) a
  | list {ts : List Term} {d : δ} {a : α} : Places slots shape.blank ts d →
      shape.finish d = .ok a → Shape.Means shape slots (.list ts) a

namespace Shape

variable {δ α : Type} {shape : Shape δ α} {slots : List (Slot δ)}

theorem member_eq_ok_iff (hf : shape.fields = slots.map Slot.field) {key : String} {t : Term}
    {d d' : δ} {bs rest after : Bytes} (ht : WritesValue t bs) (hr : Ends rest) :
    (shape.member key d).run (bs ++ rest) = .ok (d', after) ↔
      Takes slots key t d d' ∧ after = rest := by
  have hfind : (shape.fields.find? fun f => f.key == key) =
      (slots.find? fun s => s.field.key == key).map Slot.field := by
    rw [hf, List.find?_map]
    rfl
  cases hc : slots.find? fun s => s.field.key == key with
  | none =>
    simp only [member, Takes, hfind, hc, Option.map_none]
    rw [Reader.exact_skip.afterColon_map _ ht hr]
    simp only [true_and, exists_const]
  | some s =>
    simp only [member, Takes, hfind, hc, Option.map_some, s.taken]
    cases hd : s.get d with
    | some _ =>
      simp only [Option.isSome_some, if_true, reduceCtorEq, false_and, iff_false]
      intro h
      cases h
    | none =>
      simp only [Option.isSome_none, Bool.false_eq_true, if_false, true_and]
      rw [s.exact.afterColon_map _ ht hr]
      simp only [exists_exists_and_eq_and]

section list

variable {first : Bool} {bs rest after : Bytes}

theorem listEnd_of_ne {b : UInt8} {blank : Bytes} (hw : Blank blank) (hb : isBlank b = false)
    (h93 : b ≠ 93) : listEnd (blank ++ b :: bs) ≠ .ok after := by
  simp only [listEnd, skipBlank_append_cons hw hb, h93, if_false]
  split
  · split <;> simp
  · simp

/-- Behind its fields a list has to be at its end. -/
theorem listEnd_eq_ok_iff {ts : List Term} (hb : WritesItems first ts bs) :
    listEnd (bs ++ rest) = .ok after ↔ ts = [] ∧ after = rest := by
  cases hb with
  | nil hw =>
    rw [List.append_assoc, List.singleton_append]
    simp only [listEnd, skipBlank_append_cons hw (show isBlank 93 = false by decide), if_true,
      Except.ok.injEq, true_and]
    exact eq_comm
  | first hw ht _ =>
    simp only [reduceCtorEq, false_and, iff_false]
    obtain ⟨b, tail, rfl, hb, h93, -⟩ := ht.begins
    rw [List.append_assoc, List.append_assoc]
    exact listEnd_of_ne hw hb h93
  | next hw _ _ _ =>
    simp only [reduceCtorEq, false_and, iff_false]
    rw [List.append_assoc, List.cons_append]
    exact listEnd_of_ne hw (by decide) (by decide)

/-- Reads on to the end of a list whose fields have been read. -/
def closeList : δ × Bool × Bytes → Except Fault (δ × Bytes)
  | (d, true, rest) => (listEnd rest).map fun rest => (d, rest)
  | (d, false, rest) => .ok (d, rest)

variable {n : Nat} {d : δ} {f : Field δ} {fs : List (Field δ)} {x : δ × Bool × Bytes}

theorem positional_end (hn : Reader.nextItem (n == 0) bs = .ok (false, rest)) :
    shape.positional n d bs (f :: fs) = .ok x ↔
      (∀ g ∈ f :: fs, g.optional = true) ∧ x = (d, false, rest) := by
  simp only [positional, hn]
  cases hi : (f :: fs).findIdx? fun g => !g.optional with
  | none =>
    have hall : ∀ g ∈ f :: fs, g.optional = true := by
      simpa using List.findIdx?_eq_none_iff.mp hi
    simp only [Except.ok.injEq]
    exact ⟨fun h => ⟨hall, h.symm⟩, fun h => h.2.symm⟩
  | some i =>
    simp only [reduceCtorEq, false_iff]
    rintro ⟨hall, -⟩
    have : (f :: fs).findIdx? (fun g => !g.optional) = none :=
      List.findIdx?_eq_none_iff.mpr (by simpa using hall)
    rw [hi] at this
    cases this

theorem positional_next {bs' : Bytes} (hn : Reader.nextItem (n == 0) bs = .ok (true, bs')) :
    shape.positional n d bs (f :: fs) = .ok x ↔
      ∃ put rest, f.read.run bs' = .ok (put, rest) ∧
        shape.positional (n + 1) (put d) rest fs = .ok x := by
  simp only [positional, hn]
  cases hf : f.read.run bs' with
  | error e => simp
  | ok p =>
    obtain ⟨put, rest⟩ := p
    simp

/-- The draft that a list gives, once its end has been reached. -/
theorem positional_eq_ok_iff {ss : List (Slot δ)} {d' : δ} :
    ∀ {n : Nat} {d : δ} {ts : List Term} {bs : Bytes}, WritesItems (n == 0) ts bs →
      ((∃ x, shape.positional n d (bs ++ rest) (ss.map Slot.field) = .ok x ∧
        closeList x = .ok (d', after)) ↔ Places ss d ts d' ∧ after = rest) := by
  induction ss with
  | nil =>
    intro n d ts bs hb
    simp only [List.map_nil, positional, Except.ok.injEq, exists_eq_left', closeList]
    constructor
    · intro h
      obtain ⟨after', hl, he⟩ := ok_of_map h
      cases he
      obtain ⟨rfl, rfl⟩ := (listEnd_eq_ok_iff hb).mp hl
      exact ⟨.short nofun, rfl⟩
    · rintro ⟨hp, rfl⟩
      cases hp with
      | short _ =>
        rw [(listEnd_eq_ok_iff hb).mpr ⟨rfl, rfl⟩]
        rfl
  | cons s ss ih =>
    intro n d ts bs hb
    have step {bs' tail : Bytes} {t : Term} {ts : List Term}
        (hn : Reader.nextItem (n == 0) (bs ++ rest) = .ok (true, bs' ++ (tail ++ rest)))
        (ht : Writes t bs') (hts : WritesItems false ts tail) :
        (∃ x, shape.positional n d (bs ++ rest) (s.field :: ss.map Slot.field) = .ok x ∧
          closeList x = .ok (d', after)) ↔ Places (s :: ss) d (t :: ts) d' ∧ after = rest := by
      have hrun {put : δ → δ} {r : Bytes} :
          s.field.read.run (bs' ++ (tail ++ rest)) = .ok (put, r) ↔
            (∃ a, s.Is t a ∧ s.set a = put) ∧ r = tail ++ rest :=
        s.exact.run_eq_ok_iff blank_nil ht (hts.ends rest)
      simp only [positional_next hn, hrun]
      constructor
      · rintro ⟨x, ⟨_, _, ⟨⟨a, ha, rfl⟩, rfl⟩, hx⟩, hclose⟩
        obtain ⟨hp, rfl⟩ := (ih (n := n + 1) hts).mp ⟨x, hx, hclose⟩
        exact ⟨.next ha hp, rfl⟩
      · rintro ⟨hp, rfl⟩
        cases hp with
        | next ha hp =>
          obtain ⟨x, hx, hclose⟩ := (ih (n := n + 1) hts).mpr ⟨hp, rfl⟩
          exact ⟨x, ⟨_, _, ⟨⟨_, ha, rfl⟩, rfl⟩, hx⟩, hclose⟩
    rw [List.map_cons]
    -- only behind the first field a comma is due
    generalize hz : (n == 0) = z at hb
    cases hb with
    | nil hw =>
      rw [List.append_assoc, List.singleton_append]
      simp only [positional_end (Reader.nextItem_end hw rest)]
      constructor
      · rintro ⟨_, ⟨hall, rfl⟩, hclose⟩
        cases hclose
        exact ⟨.short fun g hg => hall _ (List.mem_map_of_mem hg), rfl⟩
      · rintro ⟨hp, rfl⟩
        cases hp with
        | short hall =>
          refine ⟨_, ⟨?_, rfl⟩, rfl⟩
          rw [← List.map_cons, List.forall_mem_map]
          exact hall
    | first hw ht hts =>
      refine step ?_ ht hts
      rw [hz, List.append_assoc, List.append_assoc]
      exact Reader.nextItem_first hw (ht.begins.append _)
    | next hw hw' ht hts =>
      refine step ?_ ht hts
      rw [hz, List.append_assoc, List.cons_append, List.append_assoc, List.append_assoc]
      exact Reader.nextItem_next hw hw' (ht.begins.append _)

end list

section forms

variable {bs rest after : Bytes} {a : α}

theorem ofObject_eq_ok_iff (hf : shape.fields = slots.map Slot.field)
    {ms : List (String × Term)} (hms : WritesMembers true ms bs) :
    shape.ofObject (bs ++ rest) = .ok (a, after) ↔
      ∃ d, (Leads (Takes slots) shape.blank ms d ∧ after = rest) ∧ shape.finish d = .ok a := by
  have hmembers {d : δ} : Reader.members shape.member true shape.blank (bs ++ rest) =
      .ok (d, after) ↔ Leads (Takes slots) shape.blank ms d ∧ after = rest :=
    Reader.members_eq_ok_iff (member_eq_ok_iff hf) hms
  simp only [← hmembers]
  unfold ofObject
  constructor
  · intro h
    split at h
    · cases h
    · next d rest' hm =>
      split at h
      · next a' hf =>
        cases h
        exact ⟨d, Reader.place_eq_ok hm, hf⟩
      · cases h
  · rintro ⟨d, hm, hf⟩
    simp only [hm, Reader.place, hf]

theorem ofList_eq_ok_iff (hf : shape.fields = slots.map Slot.field) {ts : List Term}
    (hts : WritesItems true ts bs) :
    shape.ofList (bs ++ rest) = .ok (a, after) ↔
      ∃ d, (Places slots shape.blank ts d ∧ after = rest) ∧ shape.finish d = .ok a := by
  have hplaces {d : δ} : (∃ x, shape.positional 0 shape.blank (bs ++ rest) shape.fields = .ok x ∧
      closeList x = .ok (d, after)) ↔ Places slots shape.blank ts d ∧ after = rest := by
    rw [hf]
    exact positional_eq_ok_iff (n := 0) hts
  simp only [← hplaces]
  unfold ofList
  constructor
  · intro h
    split at h
    · cases h
    · next d opened rest' hp =>
      split at h
      · cases h
      · next a' hf =>
        have hp := Reader.place_eq_ok hp
        cases opened with
        | true =>
          obtain ⟨after', hl, he⟩ := ok_of_map h
          cases he
          refine ⟨d, ⟨_, hp, ?_⟩, hf⟩
          rw [closeList, hl]
          rfl
        | false =>
          cases h
          exact ⟨d, ⟨_, hp, rfl⟩, hf⟩
  · rintro ⟨d, ⟨⟨d', opened, rest'⟩, hp, hclose⟩, hf⟩
    cases opened with
    | true =>
      obtain ⟨after', hl, he⟩ := ok_of_map hclose
      cases he
      simp only [hp, Reader.place, hf, if_true, hl]
      rfl
    | false =>
      cases hclose
      simp only [hp, Reader.place, hf, Bool.false_eq_true, if_false]

theorem run_object {blank : Bytes} (hw : Blank blank) (bs : Bytes) :
    shape.run (blank ++ 123 :: bs) = shape.ofObject bs := by
  simp only [run, skipBlank_append_cons hw (show isBlank 123 = false by decide), if_true,
    show (123 : UInt8) ≠ 91 by decide, if_false]

theorem run_list {blank : Bytes} (hw : Blank blank) (bs : Bytes) :
    shape.run (blank ++ 91 :: bs) = shape.ofList bs := by
  simp only [run, skipBlank_append_cons hw (show isBlank 91 = false by decide), if_true]

end forms

/-- A record is read from the values of its two forms, and from no others. -/
theorem exact (hf : shape.fields = slots.map Slot.field) :
    shape.reader.Exact (shape.Means slots) where
  accepts := by
    intro t a h blank bs rest hw ht hr
    cases h with
    | object hl hfinish =>
      cases ht with
      | object hms =>
        refine (run_object hw _).trans ?_
        exact (ofObject_eq_ok_iff hf hms).mpr ⟨_, ⟨hl, rfl⟩, hfinish⟩
    | list hp hfinish =>
      cases ht with
      | list hts =>
        refine (run_list hw _).trans ?_
        exact (ofList_eq_ok_iff hf hts).mpr ⟨_, ⟨hp, rfl⟩, hfinish⟩
  sound := by
    intro t blank bs rest a after hw ht hr h
    change shape.run _ = _ at h
    obtain ⟨b, tail, hbs, hb⟩ := ht.heads
    by_cases h91 : b = 91
    · obtain ⟨ts, rfl⟩ := hb.list.mp h91
      cases ht with
      | list hts =>
        rw [List.cons_append, run_list hw] at h
        obtain ⟨d, ⟨hp, -⟩, hfinish⟩ := (ofList_eq_ok_iff hf hts).mp h
        exact .list hp hfinish
    by_cases h123 : b = 123
    · obtain ⟨ms, rfl⟩ := hb.object.mp h123
      cases ht with
      | object hms =>
        rw [List.cons_append, run_object hw] at h
        obtain ⟨d, ⟨hl, -⟩, hfinish⟩ := (ofObject_eq_ok_iff hf hms).mp h
        exact .object hl hfinish
    · subst hbs
      rw [List.cons_append] at h
      simp only [run, skipBlank_append_cons hw hb.blank, h91, h123, if_false, reduceCtorEq] at h

end Shape

section object

variable {δ β : Type}

/-- The values of the members of that key, in their order. -/
def valuesOf (key : String) (ms : List (String × Term)) : List Term :=
  (ms.filter fun m => m.1 == key).map Prod.snd

theorem valuesOf_cons_self {key : String} {t : Term} {ms : List (String × Term)} :
    valuesOf key ((key, t) :: ms) = t :: valuesOf key ms := by
  simp [valuesOf]

theorem valuesOf_cons_of_ne {key key' : String} {t : Term} {ms : List (String × Term)}
    (h : key' ≠ key) : valuesOf key ((key', t) :: ms) = valuesOf key ms := by
  simp [valuesOf, h]

/-- The values of a key stay the same if its members do. -/
theorem valuesOf_perm {keys : List String} {key : String} (hk : key ∈ keys)
    {ms ms' : List (String × Term)}
    (h : (ms.filter fun m => m.1 ∈ keys).Perm (ms'.filter fun m => m.1 ∈ keys)) :
    (valuesOf key ms).Perm (valuesOf key ms') := by
  have all (ms : List (String × Term)) :
      valuesOf key (ms.filter fun m => m.1 ∈ keys) = valuesOf key ms := by
    rw [valuesOf, List.filter_filter]
    refine congrArg (List.map Prod.snd) (List.filter_congr fun m _ => ?_)
    by_cases hm : m.1 = key
    · simp [hm, hk]
    · simp [hm]
  rw [← all ms, ← all ms']
  exact (h.filter _).map _

/-- What values make of a place in the draft, one after the other: it holds no more than one. -/
inductive Fills (Is : Term → β → Prop) : Option β → List Term → Option β → Prop where
  | kept {o : Option β} : Fills Is o [] o
  | filled {t : Term} {b : β} : Is t b → Fills Is none [t] (some b)

variable {Is : Term → β → Prop} {o o' : Option β}

theorem fills_nil_iff : Fills Is o [] o' ↔ o = o' := by
  constructor
  · rintro ⟨⟩
    rfl
  · rintro rfl
    exact .kept

theorem fills_cons_iff {t : Term} {ts : List Term} :
    Fills Is o (t :: ts) o' ↔ o = none ∧ ∃ b, Is t b ∧ Fills Is (some b) ts o' := by
  constructor
  · intro h
    cases h with
    | filled hb => exact ⟨rfl, _, hb, .kept⟩
  · rintro ⟨rfl, b, hb, h⟩
    cases h with
    | kept => exact .filled hb

theorem fills_some_iff {ts : List Term} {b : β} :
    Fills Is none ts (some b) ↔ ∃ t, ts = [t] ∧ Is t b := by
  constructor
  · intro h
    cases h with
    | filled hb => exact ⟨_, rfl, hb⟩
  · rintro ⟨t, rfl, hb⟩
    exact .filled hb

theorem eq_nil_of_fills_none {ts : List Term} (h : Fills Is o ts none) : ts = [] := by
  cases h with
  | kept => rfl

/-- Slots that keep out of each other's way, and between them hold all there is to a draft. -/
structure Independent (slots : List (Slot δ)) : Prop where
  keys : (slots.map fun s => s.field.key).Nodup
  apart : ∀ s ∈ slots, ∀ s' ∈ slots, s.field.key ≠ s'.field.key →
    ∀ a d, s'.get (s.set a d) = s'.get d
  ext : ∀ {d d'}, (∀ s ∈ slots, s.get d = s.get d') → d = d'

/-- An object fills each slot by the values of its key, whatever stands between them. -/
theorem Independent.leads_iff {slots : List (Slot δ)} (h : Independent slots)
    {ms : List (String × Term)} : Leads (Takes slots) d ms d' ↔
      ∀ s ∈ slots, Fills s.Is (s.get d) (valuesOf s.field.key ms) (s.get d') := by
  induction ms generalizing d with
  | nil =>
    rw [leads_nil_iff]
    constructor
    · rintro rfl s -
      exact .kept
    · intro hall
      exact h.ext fun s hs => fills_nil_iff.mp (hall s hs)
  | cons m ms ih =>
    obtain ⟨key, t⟩ := m
    rw [leads_cons_iff]
    cases hf : slots.find? fun s => s.field.key == key with
    | none =>
      have hkey : ∀ s ∈ slots, key ≠ s.field.key := by
        intro s hs he
        exact List.find?_eq_none.mp hf s hs (beq_iff_eq.mpr he.symm)
      simp only [Takes, hf, exists_eq_left', ih]
      refine forall₂_congr fun s hs => ?_
      rw [valuesOf_cons_of_ne (hkey s hs)]
    | some s₀ =>
      have hs₀ := List.mem_of_find?_eq_some hf
      obtain rfl : s₀.field.key = key := by simpa using List.find?_some hf
      have same {s : Slot δ} (hs : s ∈ slots) (he : s.field.key = s₀.field.key) : s = s₀ :=
        List.inj_on_of_nodup_map h.keys hs hs₀ he
      simp only [Takes, hf, ih]
      -- the member goes to one slot, and for the others it might as well not be there
      constructor
      · rintro ⟨_, ⟨hnone, a, ha, rfl⟩, hall⟩ s hs
        have hfill := hall s hs
        by_cases he : s.field.key = s₀.field.key
        · obtain rfl := same hs he
          rw [s.get_set] at hfill
          rw [valuesOf_cons_self, fills_cons_iff]
          exact ⟨hnone, a, ha, hfill⟩
        · rw [h.apart s₀ hs₀ s hs (Ne.symm he)] at hfill
          rwa [valuesOf_cons_of_ne (Ne.symm he)]
      · intro hall
        have hfill := hall s₀ hs₀
        rw [valuesOf_cons_self, fills_cons_iff] at hfill
        obtain ⟨hnone, a, ha, hfill⟩ := hfill
        refine ⟨_, ⟨hnone, a, ha, rfl⟩, fun s hs => ?_⟩
        by_cases he : s.field.key = s₀.field.key
        · obtain rfl := same hs he
          rwa [s.get_set]
        · have := hall s hs
          rw [valuesOf_cons_of_ne (Ne.symm he)] at this
          rwa [h.apart s₀ hs₀ s hs (Ne.symm he)]

end object

end PortShare.Json
