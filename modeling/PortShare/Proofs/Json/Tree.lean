import PortShare.Json.Tree
import PortShare.Proofs.Json.Exact

/-! Values of any shape. A text that writes a value is read as that value, if its containers are not
nested too deep and its numbers are in range, and what is found in it under a key is what the text
has there. -/

namespace PortShare.Json

/-- What a value without parts is read as; a number must be in range. -/
inductive IsScalar : Term → Scalar → Prop where
  | null : IsScalar .null .null
  | bool (b : Bool) : IsScalar (.bool b) (.bool b)
  | number {minus : Bool} {l : Literal} {n : Number} : l.number minus = .ok n →
      IsScalar (.number minus l) (.number n)
  | text (s : String) : IsScalar (.text s) (.text s)

/-- A member is read under its key. -/
def IsMember (Inner : Term → Value → Prop) (m : String × Term) (w : String × Value) : Prop :=
  m.1 = w.1 ∧ Inner m.2 w.2

/-- What a value is read as where its parts are read as `Inner` tells. -/
inductive IsNested (Inner : Term → Value → Prop) : Term → Value → Prop where
  | scalar {t : Term} {s : Scalar} : IsScalar t s → IsNested Inner t (.scalar s)
  | list {ts : List Term} {vs : List Value} : List.Forall₂ Inner ts vs →
      IsNested Inner (.list ts) (.list vs)
  | object {ms : List (String × Term)} {vs : List (String × Value)} :
      List.Forall₂ (IsMember Inner) ms vs → IsNested Inner (.object ms) (.object vs)

/-- What a value is read as whose containers are nested at most `depth` deep. -/
def IsTree : Nat → Term → Value → Prop
  | 0, t, v => ∃ s, IsScalar t s ∧ v = .scalar s
  | depth + 1, t, v => IsNested (IsTree depth) t v

section exact

variable {t : Term} {bs rest after : Bytes}

theorem isScalar_null_iff {s : Scalar} : IsScalar .null s ↔ s = .null :=
  ⟨fun | .null => rfl, fun h => h ▸ .null⟩

theorem isScalar_bool_iff {b : Bool} {s : Scalar} : IsScalar (.bool b) s ↔ s = .bool b :=
  ⟨fun | .bool _ => rfl, fun h => h ▸ .bool b⟩

theorem isScalar_text_iff {text : String} {s : Scalar} :
    IsScalar (.text text) s ↔ s = .text text :=
  ⟨fun | .text _ => rfl, fun h => h ▸ .text text⟩

theorem isScalar_number_iff {minus : Bool} {l : Literal} {s : Scalar} :
    IsScalar (.number minus l) s ↔ ∃ n, l.number minus = .ok n ∧ s = .number n := by
  constructor
  · rintro ⟨⟩
    exact ⟨_, by assumption, rfl⟩
  · rintro ⟨n, hn, rfl⟩
    exact .number hn

theorem readScalar_number {b : UInt8} (hb : b = 45 ∨ isDigit b = true) (bs : Bytes) :
    readScalar (b :: bs) = (readNumber (b :: bs)).map fun r => (.number r.1, r.2) := by
  have other {c : UInt8} (h45 : c ≠ 45) (hc : isDigit c = false) : b ≠ c := by
    rintro rfl
    rcases hb with rfl | hb
    · exact h45 rfl
    · rw [hb] at hc
      cases hc
  simp only [readScalar, other (c := 110) (by decide) (by decide),
    other (c := 116) (by decide) (by decide), other (c := 102) (by decide) (by decide), hb,
    if_true, if_false]

/-- A value without parts is read as it is; what has parts is not read in this way. -/
theorem readScalar_eq_ok_iff {s : Scalar} (ht : Writes t bs) (hr : Ends rest) :
    readScalar (bs ++ rest) = .ok (s, after) ↔ IsScalar t s ∧ after = rest := by
  have of_eq {s' : Scalar} (h : readScalar (bs ++ rest) = .ok (s', rest))
      (hs : IsScalar t s ↔ s = s') :
      readScalar (bs ++ rest) = .ok (s, after) ↔ IsScalar t s ∧ after = rest := by
    rw [h, hs, Except.ok.injEq, Prod.mk.injEq, eq_comm, @eq_comm _ rest]
  have of_number {minus : Bool} {l : Literal} (ht : Writes (.number minus l) bs) :
      readScalar (bs ++ rest) = .ok (s, after) ↔
        IsScalar (.number minus l) s ∧ after = rest := by
    have hn {n : Number} : readNumber (bs ++ rest) = .ok (n, after) ↔ _ :=
      readNumber_eq_ok_iff ht hr
    obtain ⟨b, tail, rfl, hb⟩ := ht.heads
    rw [List.cons_append] at hn ⊢
    rw [readScalar_number (hb.number.mpr ⟨_, _, rfl⟩), isScalar_number_iff]
    constructor
    · intro h
      obtain ⟨⟨n, after'⟩, hread, he⟩ := ok_of_map h
      cases he
      obtain ⟨hl, rfl⟩ := hn.mp hread
      exact ⟨⟨n, hl, rfl⟩, rfl⟩
    · rintro ⟨⟨n, hl, rfl⟩, rfl⟩
      rw [hn.mpr ⟨hl, rfl⟩]
      rfl
  cases ht with
  | null => exact of_eq rfl isScalar_null_iff
  | yes => exact of_eq rfl isScalar_bool_iff
  | no => exact of_eq rfl isScalar_bool_iff
  | number h => exact of_number (.number h)
  | negative h => exact of_number (.negative h)
  | text h =>
    refine of_eq ?_ isScalar_text_iff
    rw [List.cons_append]
    simp only [readScalar, h.readText]
    rfl
  | list | object =>
    constructor
    · intro h
      cases h
    · rintro ⟨⟨⟩, -⟩

theorem map_readScalar_eq_ok_iff {v : Value} (ht : Writes t bs) (hr : Ends rest) :
    (readScalar (bs ++ rest)).map (fun x => (Value.scalar x.1, x.2)) = .ok (v, after) ↔
      (∃ s, IsScalar t s ∧ v = .scalar s) ∧ after = rest := by
  constructor
  · intro h
    obtain ⟨⟨s, after'⟩, hread, he⟩ := ok_of_map h
    cases he
    obtain ⟨hs, rfl⟩ := (readScalar_eq_ok_iff ht hr).mp hread
    exact ⟨⟨s, hs, rfl⟩, rfl⟩
  · rintro ⟨⟨s, hs, rfl⟩, rfl⟩
    rw [(readScalar_eq_ok_iff ht hr).mpr ⟨hs, rfl⟩]
    rfl

theorem Reader.Exact.of_iff {α : Type} {r : Reader α} {R : Term → α → Prop}
    (h : ∀ {t blank bs rest a after}, Blank blank → Writes t bs → Ends rest →
      (r.run (blank ++ (bs ++ rest)) = .ok (a, after) ↔ R t a ∧ after = rest)) : r.Exact R where
  accepts hR _ _ _ hw ht hr := (h hw ht hr).mpr ⟨hR, rfl⟩
  sound hw ht hr ha := ((h hw ht hr).mp ha).1

theorem exact_flat : Tree.flat.Exact (IsTree 0) := by
  refine .of_iff fun {t blank bs rest v after} hw ht hr => ?_
  refine Iff.trans ?_ (map_readScalar_eq_ok_iff ht hr)
  obtain ⟨b, tail, rfl, hb⟩ := ht.heads
  change Tree.runFlat _ = _ ↔ _
  rw [List.cons_append]
  simp only [Tree.runFlat, skipBlank_append_cons hw hb.blank]
  split
  · next h =>
    -- a container is not read as a scalar either
    rcases h with rfl | rfl <;> exact ⟨nofun, nofun⟩
  · exact Iff.rfl

section members

variable {inner : Reader Value} {Inner : Term → Value → Prop}

/-- Members are read one after the other, and the last of them stands first. -/
theorem leads_member_iff {d d' : List (String × Value)} {ms : List (String × Term)} :
    Leads (fun key t d d' => ∃ v, Inner t v ∧ (key, v) :: d = d') d ms d' ↔
      ∃ vs, List.Forall₂ (IsMember Inner) ms vs ∧ d' = vs.reverse ++ d := by
  induction ms generalizing d with
  | nil =>
    rw [leads_nil_iff]
    constructor
    · rintro rfl
      exact ⟨[], .nil, rfl⟩
    · rintro ⟨vs, hvs, rfl⟩
      cases hvs
      rfl
  | cons m ms ih =>
    obtain ⟨key, t⟩ := m
    rw [leads_cons_iff]
    constructor
    · rintro ⟨_, ⟨v, hv, rfl⟩, hl⟩
      obtain ⟨vs, hvs, rfl⟩ := ih.mp hl
      exact ⟨(key, v) :: vs, .cons ⟨rfl, hv⟩ hvs, by simp⟩
    · rintro ⟨_, hvs, rfl⟩
      cases hvs with
      | @cons _ w _ vs hm hvs =>
        obtain ⟨_, v⟩ := w
        obtain ⟨rfl, hv⟩ := hm
        exact ⟨(key, v) :: d, ⟨v, hv, rfl⟩, ih.mpr ⟨vs, hvs, by simp⟩⟩

theorem members_tree_eq_ok_iff (h : inner.Exact Inner) {ms : List (String × Term)}
    {vs : List (String × Value)} (hms : WritesMembers true ms bs) :
    Reader.members (Tree.member inner) true [] (bs ++ rest) = .ok (vs, after) ↔
      List.Forall₂ (IsMember Inner) ms vs.reverse ∧ after = rest := by
  have hmember {key : String} {t : Term} {d d' : List (String × Value)} {bs rest after : Bytes}
      (ht : WritesValue t bs) (hr : Ends rest) :
      (Tree.member inner key d).run (bs ++ rest) = .ok (d', after) ↔
        (∃ v, Inner t v ∧ (key, v) :: d = d') ∧ after = rest := h.afterColon_map _ ht hr
  rw [Reader.members_eq_ok_iff hmember hms, leads_member_iff]
  refine and_congr_left fun _ => ⟨?_, fun hvs => ⟨_, hvs, by simp⟩⟩
  rintro ⟨ws, hws, rfl⟩
  simpa using hws

end members

theorem isNested_list_iff {Inner : Term → Value → Prop} {ts : List Term} {v : Value} :
    IsNested Inner (.list ts) v ↔ ∃ vs, List.Forall₂ Inner ts vs ∧ v = .list vs := by
  constructor
  · rintro (⟨⟨⟩⟩ | hts)
    exact ⟨_, hts, rfl⟩
  · rintro ⟨vs, hts, rfl⟩
    exact .list hts

theorem isNested_object_iff {Inner : Term → Value → Prop} {ms : List (String × Term)} {v : Value} :
    IsNested Inner (.object ms) v ↔
      ∃ vs, List.Forall₂ (IsMember Inner) ms vs ∧ v = .object vs := by
  constructor
  · rintro (⟨⟨⟩⟩ | _ | hms)
    exact ⟨_, hms, rfl⟩
  · rintro ⟨vs, hms, rfl⟩
    exact .object hms

theorem isNested_scalar_iff {Inner : Term → Value → Prop} {v : Value}
    (hl : ∀ ts, t ≠ .list ts) (ho : ∀ ms, t ≠ .object ms) :
    IsNested Inner t v ↔ ∃ s, IsScalar t s ∧ v = .scalar s := by
  constructor
  · rintro (hs | _ | _)
    · exact ⟨_, hs, rfl⟩
    · exact absurd rfl (hl _)
    · exact absurd rfl (ho _)
  · rintro ⟨s, hs, rfl⟩
    exact .scalar hs

theorem runNested_scalar {inner : Reader Value} {b : UInt8} {blank : Bytes} (hw : Blank blank)
    (hb : isBlank b = false) (h91 : b ≠ 91) (h123 : b ≠ 123) (bs : Bytes) :
    Tree.runNested inner (blank ++ b :: bs) =
      (readScalar (b :: bs)).map fun x => (.scalar x.1, x.2) := by
  simp only [Tree.runNested, skipBlank_append_cons hw hb, h91, h123, if_false]

theorem exact_nested {inner : Reader Value} {Inner : Term → Value → Prop}
    (h : inner.Exact Inner) : (Tree.nested inner).Exact (IsNested Inner) := by
  refine .of_iff fun {t blank bs rest v after} hw ht hr => ?_
  change Tree.runNested _ _ = _ ↔ _
  -- the first byte sends each kind of value its own way
  by_cases hl : ∃ ts, t = .list ts
  · obtain ⟨ts, rfl⟩ := hl
    cases ht with
    | list hts =>
      rw [isNested_list_iff]
      simp only [Tree.runNested, List.cons_append,
        skipBlank_append_cons hw (show isBlank 91 = false by decide), if_true]
      constructor
      · intro hv
        obtain ⟨⟨vs, after'⟩, hitems, he⟩ := ok_of_map hv
        cases he
        obtain ⟨hvs, rfl⟩ := (h.items_eq_ok_iff hts).mp (Reader.place_eq_ok hitems)
        exact ⟨⟨vs, hvs, rfl⟩, rfl⟩
      · rintro ⟨⟨vs, hvs, rfl⟩, rfl⟩
        rw [(h.items_eq_ok_iff hts).mpr ⟨hvs, rfl⟩]
        rfl
  by_cases ho : ∃ ms, t = .object ms
  · obtain ⟨ms, rfl⟩ := ho
    cases ht with
    | object hms =>
      rw [isNested_object_iff]
      simp only [Tree.runNested, List.cons_append,
        skipBlank_append_cons hw (show isBlank 123 = false by decide), if_true,
        show (123 : UInt8) ≠ 91 by decide, if_false]
      constructor
      · intro hv
        obtain ⟨⟨vs, after'⟩, hmembers, he⟩ := ok_of_map hv
        cases he
        obtain ⟨hvs, rfl⟩ := (members_tree_eq_ok_iff h hms).mp (Reader.place_eq_ok hmembers)
        exact ⟨⟨_, hvs, rfl⟩, rfl⟩
      · rintro ⟨⟨vs, hvs, rfl⟩, rfl⟩
        rw [← List.reverse_reverse vs] at hvs
        rw [(members_tree_eq_ok_iff h hms).mpr ⟨hvs, rfl⟩]
        simp only [Reader.place, Except.map, List.reverse_reverse]
  · rw [isNested_scalar_iff (not_exists.mp hl) (not_exists.mp ho),
      ← map_readScalar_eq_ok_iff ht hr]
    obtain ⟨b, tail, rfl, hb⟩ := ht.heads
    rw [List.cons_append,
      runNested_scalar hw hb.blank (mt hb.list.mp hl) (mt hb.object.mp ho)]

/-- A text is read as the value that it writes. -/
theorem exact_reader (depth : Nat) : (Tree.reader depth).Exact (IsTree depth) := by
  induction depth with
  | zero => exact exact_flat
  | succ depth ih => exact exact_nested ih

theorem read_eq_ok_iff_isTree {v : Value} (hd : Document t bs) :
    Value.read bs = .ok v ↔ IsTree 127 t v :=
  (exact_reader 127).readAll_eq_ok_iff hd

end exact

section fits

/-- The containers of a value are nested at most `depth` deep, and its numbers are in range. -/
def Term.Fits : Nat → Term → Prop
  | _, .null | _, .bool _ | _, .text _ => True
  | _, .number minus l => ∃ n, l.number minus = .ok n
  | 0, .list _ | 0, .object _ => False
  | depth + 1, .list ts => ∀ t ∈ ts, t.Fits depth
  | depth + 1, .object ms => ∀ m ∈ ms, m.2.Fits depth

theorem exists_forall₂_iff {α β : Type} {R : α → β → Prop} {as : List α} :
    (∃ bs, List.Forall₂ R as bs) ↔ ∀ a ∈ as, ∃ b, R a b := by
  induction as with
  | nil => exact ⟨fun _ => nofun, fun _ => ⟨[], .nil⟩⟩
  | cons a as ih =>
    rw [List.forall_mem_cons, ← ih]
    constructor
    · rintro ⟨_, hR⟩
      cases hR with
      | cons h hs => exact ⟨⟨_, h⟩, ⟨_, hs⟩⟩
    · rintro ⟨⟨b, h⟩, ⟨bs, hs⟩⟩
      exact ⟨b :: bs, .cons h hs⟩

theorem exists_isScalar_iff {t : Term} (hl : ∀ ts, t ≠ .list ts) (ho : ∀ ms, t ≠ .object ms)
    (depth : Nat) : (∃ s, IsScalar t s) ↔ t.Fits depth := by
  cases t with
  | null => exact ⟨fun _ => by cases depth <;> trivial, fun _ => ⟨_, .null⟩⟩
  | bool b => exact ⟨fun _ => by cases depth <;> trivial, fun _ => ⟨_, .bool b⟩⟩
  | text s => exact ⟨fun _ => by cases depth <;> trivial, fun _ => ⟨_, .text s⟩⟩
  | number minus l =>
    simp only [isScalar_number_iff, Term.Fits]
    exact ⟨fun ⟨_, n, hn, _⟩ => ⟨n, hn⟩, fun ⟨n, hn⟩ => ⟨_, n, hn, rfl⟩⟩
  | list ts => exact absurd rfl (hl ts)
  | object ms => exact absurd rfl (ho ms)

/-- These are the values that are read. -/
theorem exists_isTree_iff {depth : Nat} {t : Term} : (∃ v, IsTree depth t v) ↔ t.Fits depth := by
  induction depth generalizing t with
  | zero =>
    by_cases hl : ∃ ts, t = .list ts
    · obtain ⟨ts, rfl⟩ := hl
      exact ⟨nofun, nofun⟩
    by_cases ho : ∃ ms, t = .object ms
    · obtain ⟨ms, rfl⟩ := ho
      exact ⟨nofun, nofun⟩
    rw [← exists_isScalar_iff (not_exists.mp hl) (not_exists.mp ho) 0]
    simp [IsTree]
  | succ depth ih =>
    by_cases hl : ∃ ts, t = .list ts
    · obtain ⟨ts, rfl⟩ := hl
      simp only [IsTree, isNested_list_iff, Term.Fits, ← ih, ← exists_forall₂_iff]
      simp
    by_cases ho : ∃ ms, t = .object ms
    · obtain ⟨ms, rfl⟩ := ho
      have hmember (m : String × Term) : m.2.Fits depth ↔ ∃ w, IsMember (IsTree depth) m w := by
        rw [← ih]
        exact ⟨fun ⟨v, hv⟩ => ⟨(m.1, v), rfl, hv⟩, fun ⟨w, _, hw⟩ => ⟨w.2, hw⟩⟩
      simp only [IsTree, isNested_object_iff, Term.Fits, hmember, ← exists_forall₂_iff]
      simp
    rw [← exists_isScalar_iff (not_exists.mp hl) (not_exists.mp ho) (depth + 1)]
    simp [IsTree, isNested_scalar_iff (not_exists.mp hl) (not_exists.mp ho)]

end fits

section find

/-- The value of the last member with that key. -/
def Term.get? : Term → String → Option Term
  | .object ms, key => (ms.reverse.find? fun m => m.1 == key).map Prod.snd
  | _, _ => none

/-- The value reached through a path of keys. -/
def Term.path? : Term → List String → Option Term
  | t, [] => some t
  | t, key :: keys => (t.get? key).bind fun inner => inner.path? keys

/-- What a value is read as, however deep its containers may be nested. -/
def IsRead (t : Term) (v : Value) : Prop := ∃ depth, IsTree depth t v

theorem find?_member {Inner : Term → Value → Prop} {ms : List (String × Term)}
    {vs : List (String × Value)} (h : List.Forall₂ (IsMember Inner) ms vs) (key : String) :
    Option.Rel (IsMember Inner) (ms.find? fun m => m.1 == key) (vs.find? fun w => w.1 == key) := by
  induction h with
  | nil => exact .none
  | @cons m w ms vs hm _ ih =>
    rw [List.find?_cons, List.find?_cons, hm.1]
    cases w.1 == key with
    | true => exact .some hm
    | false => exact ih

theorem IsRead.get? {t : Term} {v : Value} (h : IsRead t v) (key : String) :
    Option.Rel IsRead (t.get? key) (v.get? key) := by
  obtain ⟨depth, h⟩ := h
  cases depth with
  | zero =>
    obtain ⟨s, hs, rfl⟩ := h
    cases hs <;> exact .none
  | succ depth =>
    cases h with
    | scalar hs => cases hs <;> exact .none
    | list _ => exact .none
    | object hms =>
      have hfind := find?_member (List.rel_reverse hms) key
      simp only [Term.get?, Value.get?]
      generalize List.find? _ _ = m at hfind ⊢
      generalize List.find? _ _ = w at hfind ⊢
      cases hfind with
      | none => exact .none
      | some hm => exact .some ⟨depth, hm.2⟩

theorem IsRead.path? {t : Term} {v : Value} (h : IsRead t v) (keys : List String) :
    Option.Rel IsRead (t.path? keys) (v.path? keys) := by
  induction keys generalizing t v with
  | nil => exact .some h
  | cons key keys ih =>
    have hget := h.get? key
    rw [Term.path?, Value.path?]
    generalize t.get? key = t', v.get? key = v' at hget
    cases hget with
    | none => exact .none
    | some h => exact ih h

/-- A text is read as itself, and nothing else is read as a text. -/
theorem IsRead.eq_text_iff {t : Term} {v : Value} (h : IsRead t v) {s : String} :
    v = .text s ↔ t = .text s := by
  have of_scalar {s' : Scalar} (hs : IsScalar t s') : Value.scalar s' = .text s ↔ t = .text s := by
    cases hs <;> simp [Value.text]
  obtain ⟨depth, h⟩ := h
  cases depth with
  | zero =>
    obtain ⟨s', hs, rfl⟩ := h
    exact of_scalar hs
  | succ depth =>
    cases h with
    | scalar hs => exact of_scalar hs
    | list _ => exact ⟨nofun, nofun⟩
    | object _ => exact ⟨nofun, nofun⟩

end find

end PortShare.Json
