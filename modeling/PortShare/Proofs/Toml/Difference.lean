import Mathlib.Data.List.Forall2
import PortShare.Proofs.Toml.Lines

/-! Documents that differ in one text. Whatever lines are read behind it, they differ in that text and
in nothing else. -/

namespace PortShare.Toml

/-- Two entries that differ in no more than what stands under a key, and there by `R`. -/
def EntryDiffers (key : String) (R : Item → Item → Prop) (e e' : String × Item) : Prop :=
  e.1 = e'.1 ∧ if e.1 = key then R e.2 e'.2 else e.2 = e'.2

namespace Table

/-- Two tables that differ in no more than what stands under a key of theirs, and there by `R`. -/
structure Differ (key : String) (R : Item → Item → Prop) (t t' : Table) : Prop where
  origin : t.1 = t'.1
  entries : List.Forall₂ (EntryDiffers key R) t.2 t'.2
  has : ∃ e ∈ t.2, e.1 = key

section entries

variable {key k : String} {R : Item → Item → Prop} {t t' : Table} {a a' : Item}

theorem Differ.get?_of_ne (h : Differ key R t t') (hk : k ≠ key) : t.get? k = t'.get? k := by
  obtain ⟨_, es⟩ := t
  obtain ⟨_, es'⟩ := t'
  have hentries : List.Forall₂ (EntryDiffers key R) es es' := h.entries
  clear h
  unfold get?
  induction hentries with
  | nil => rfl
  | @cons e e' es es' he _ ih =>
    obtain ⟨hkey, hitem⟩ := he
    by_cases hek : e.1 = k
    · rw [if_neg (hek ▸ hk)] at hitem
      simp [← hkey, hek, hitem]
    · rw [List.find?_cons_of_neg (by simpa using hek),
        List.find?_cons_of_neg (by simpa [← hkey] using hek), ih]

theorem Differ.get?_self (h : Differ key R t t') :
    ∃ a a', t.get? key = some a ∧ t'.get? key = some a' ∧ R a a' := by
  obtain ⟨_, es⟩ := t
  obtain ⟨_, es'⟩ := t'
  have hentries : List.Forall₂ (EntryDiffers key R) es es' := h.entries
  have hhas : ∃ e ∈ es, e.1 = key := h.has
  clear h
  unfold get?
  induction hentries with
  | nil => simp at hhas
  | @cons e e' es es' he _ ih =>
    obtain ⟨hkey, hitem⟩ := he
    by_cases hek : e.1 = key
    · rw [if_pos hek] at hitem
      refine ⟨e.2, e'.2, ?_, ?_, hitem⟩ <;> simp [← hkey, hek]
    · rw [List.find?_cons_of_neg (by simpa using hek),
        List.find?_cons_of_neg (by simpa [← hkey] using hek)]
      obtain ⟨d, hd, hdkey⟩ := hhas
      refine ih ⟨d, (List.mem_cons.mp hd).resolve_left ?_, hdkey⟩
      rintro rfl
      exact hek hdkey

theorem any_key_congr {es es' : List (String × Item)}
    (h : List.Forall₂ (EntryDiffers key R) es es') (k : String) :
    (es.any fun e => e.1 == k) = es'.any fun e => e.1 == k := by
  induction h with
  | nil => rfl
  | cons he _ ih => rw [List.any_cons, List.any_cons, ih, he.1]

theorem any_key_iff {es : List (String × Item)} :
    (es.any fun e => e.1 == k) = true ↔ ∃ e ∈ es, e.1 = k := by simp

/-- Setting an entry of both tables. -/
theorem Differ.put (h : Differ key R t t') (hitem : if k = key then R a a' else a = a') :
    Differ key R (t.put k a) (t'.put k a') := by
  obtain ⟨o, es⟩ := t
  obtain ⟨_, es'⟩ := t'
  obtain ⟨rfl, hentries, e, he, hkey⟩ := h
  simp only [Table.put, ← any_key_congr hentries k]
  by_cases hany : (es.any fun e => e.1 == k) = true
  · simp only [if_pos hany]
    refine ⟨rfl, List.rel_map ?_ hentries, ?_⟩
    · rintro e e' ⟨hee, hd⟩
      simp only [← hee]
      by_cases hek : (e.1 == k) = true
      · rw [if_pos hek, if_pos hek]
        exact ⟨rfl, hitem⟩
      · rw [if_neg hek, if_neg hek]
        exact ⟨hee, hd⟩
    · refine ⟨_, List.mem_map_of_mem he, ?_⟩
      by_cases hek : (e.1 == k) = true
      · rw [if_pos hek]
        exact (beq_iff_eq.mp hek).symm.trans hkey
      · rw [if_neg hek]
        exact hkey
  · simp only [if_neg hany]
    refine ⟨rfl, List.rel_append hentries ?_, e, List.mem_append_left _ he, hkey⟩
    exact .cons ⟨rfl, hitem⟩ .nil

/-- Two items set under one key. -/
theorem differ_put (t : Table) (hr : R a a') : Differ key R (t.put key a) (t.put key a') := by
  obtain ⟨o, es⟩ := t
  have same {e : String × Item} (hne : ¬ e.1 = key) : EntryDiffers key R e e :=
    ⟨rfl, by rw [if_neg hne]⟩
  have hitem : EntryDiffers key R (key, a) (key, a') := ⟨rfl, by rwa [if_pos rfl]⟩
  simp only [Table.put]
  split
  next hany =>
    obtain ⟨e, he, hkey⟩ := any_key_iff.mp hany
    refine ⟨rfl, ?_, (key, a), List.mem_map.mpr ⟨e, he, by rw [if_pos (beq_iff_eq.mpr hkey)]⟩, rfl⟩
    rw [List.forall₂_map_left_iff, List.forall₂_map_right_iff, List.forall₂_same]
    intro e _
    split
    · exact hitem
    next hek => exact same fun h => hek (beq_iff_eq.mpr h)
  next hany =>
    refine ⟨rfl, List.rel_append (List.forall₂_same.mpr fun e he => same fun hkey => ?_)
      (.cons hitem .nil), (key, a), by simp, rfl⟩
    exact hany (any_key_iff.mpr ⟨e, he, hkey⟩)

end entries

end Table

namespace Item

/-- Two items that differ in no more than a text at the end of a path: it is `s` in one of them and
`s'` in the other. -/
def Differ (s s' : String) : List String → Item → Item → Prop
  | [], a, a' => a = .text s ∧ a' = .text s'
  | key :: path, a, a' => ∃ origin es es', a = .table origin es ∧ a' = .table origin es' ∧
      Table.Differ key (Differ s s' path) (origin, es) (origin, es')

theorem differ_table {s s' key : String} {path : List String} {t t' : Table}
    (h : Table.Differ key (Differ s s' path) t t') :
    Differ s s' (key :: path) (.table t.1 t.2) (.table t'.1 t'.2) := by
  obtain ⟨origin, es⟩ := t
  obtain ⟨origin', es'⟩ := t'
  obtain rfl : origin = origin' := h.origin
  exact ⟨origin, es, es', rfl, rfl, h⟩

end Item

namespace Table

variable {s s' key : String} {path : List String} {t t' : Table}

/-- What a header makes of what has been under the last part of its key. -/
def openedItem : Option Item → Option Item
  | none => some (.table .written [])
  | some (.table .implied entries) => some (.table .written entries)
  | some _ => none

/-- What a header with double brackets makes of it. -/
def nextItem : Option Item → Option Item
  | none => some (.tables [.table .written []])
  | some (.tables items) => some (.tables (items ++ [.table .written []]))
  | some _ => none

/-- A change makes no more difference between tables than there has been. -/
def KeepsDifference (s s' : String) (f : Table → Option Table) : Prop :=
  ∀ {key path t t'}, Differ key (Item.Differ s s' path) t t' →
    Option.Rel (Differ key (Item.Differ s s' path)) (f t) (f t')

section change

variable {k : String} {R : Item → Item → Prop}

theorem Differ.rel_put (h : Differ key R t t') {α : Type} {x x' : Option α} {g g' : α → Item}
    (hx : Option.Rel (fun a a' => if k = key then R (g a) (g' a') else g a = g' a') x x') :
    Option.Rel (Differ key R) (x.map fun a => t.put k (g a)) (x'.map fun a => t'.put k (g' a)) := by
  cases hx with
  | none => exact .none
  | some ha => exact .some (h.put ha)

theorem Differ.rel_put_of_ne (h : Differ key R t t') (hk : k ≠ key) {α : Type} (x : Option α)
    (g : α → Item) :
    Option.Rel (Differ key R) (x.map fun a => t.put k (g a)) (x.map fun a => t'.put k (g a)) := by
  cases x with
  | none => exact .none
  | some a => exact .some (h.put (by rw [if_neg hk]))

end change

theorem change_keeps {f : Table → Option Table} (hf : KeepsDifference s s' f) (dotted : Bool)
    (keys : List String) : KeepsDifference s s' (change dotted f keys) := by
  induction keys with
  | nil => exact hf
  | cons k keys ih =>
    intro key path t t' h
    by_cases hk : k = key
    · subst hk
      obtain ⟨a, a', ha, ha', hdiff⟩ := h.get?_self
      simp only [change, ha, ha']
      cases path with
      | nil =>
        obtain ⟨rfl, rfl⟩ := hdiff
        exact .none
      | cons key path =>
        obtain ⟨origin, es, es', rfl, rfl, hinner⟩ := hdiff
        have hrel := ih hinner
        simp only
        generalize change dotted f keys (origin, es) = x, change dotted f keys (origin, es') = x'
          at hrel ⊢
        split
        · exact .none
        · simp only [Option.map_map]
          refine h.rel_put ?_
          cases hrel with
          | none => exact .none
          | some hin =>
            refine .some ?_
            rw [if_pos rfl]
            exact Item.differ_table hin
    · simp only [change, h.get?_of_ne hk]
      split
      · simp only [Option.map_map]
        exact h.rel_put_of_ne hk _ _
      · split
        · exact .none
        · simp only [Option.map_map]
          exact h.rel_put_of_ne hk _ _
      · split
        · exact h.rel_put_of_ne hk _ _
        · exact .none
      · exact .none

/-- Setting one entry to something that depends on what has been there. -/
theorem put_keeps {f : Table → Option Table} (k : String) (g : Origin → Option Item → Option Item)
    (hf : ∀ t, f t = (g t.1 (t.get? k)).map (t.put k))
    (hg : ∀ {origin path a a'}, Item.Differ s s' path a a' →
      Option.Rel (Item.Differ s s' path) (g origin (some a)) (g origin (some a'))) :
    KeepsDifference s s' f := by
  intro key path t t' h
  rw [hf, hf, h.origin]
  by_cases hk : k = key
  · subst hk
    obtain ⟨a, a', ha, ha', hdiff⟩ := h.get?_self
    rw [ha, ha']
    refine h.rel_put ?_
    simp only [if_true]
    exact hg hdiff
  · rw [h.get?_of_ne hk]
    exact h.rel_put_of_ne hk _ _

theorem insert_keeps (keys : List String) (item : Item) :
    KeepsDifference s s' (insert keys item) := by
  intro key path t t' h
  unfold insert
  cases keys.getLast? with
  | none => exact .none
  | some k =>
    refine change_keeps (put_keeps k (fun origin there =>
      if (origin = .dotted ↔ keys.dropLast = []) ∨ there.isSome then none else some item)
      (fun t => ?_) fun _ => ?_) true keys.dropLast h
    · split <;> rfl
    · simp only [Option.isSome_some, or_true, if_true]
      exact .none

theorem openTable_keeps (keys : List String) : KeepsDifference s s' (openTable keys) := by
  intro key path t t' h
  unfold openTable
  cases keys.getLast? with
  | none => exact .none
  | some k =>
    refine change_keeps (put_keeps k (fun _ => openedItem) (fun t => ?_) ?_) false keys.dropLast h
    · split <;> simp_all [openedItem]
    · intro _ path a a' hdiff
      cases path with
      | nil =>
        obtain ⟨rfl, rfl⟩ := hdiff
        exact .none
      | cons key path =>
        obtain ⟨origin, es, es', rfl, rfl, hinner⟩ := hdiff
        cases origin with
        | implied => exact .some ⟨.written, es, es', rfl, rfl, ⟨rfl, hinner.entries, hinner.has⟩⟩
        | _ => exact .none

theorem openNext_keeps (keys : List String) : KeepsDifference s s' (openNext keys) := by
  intro key path t t' h
  unfold openNext
  cases keys.getLast? with
  | none => exact .none
  | some k =>
    refine change_keeps (put_keeps k (fun _ => nextItem) (fun t => ?_) ?_) false keys.dropLast h
    · split <;> simp_all [nextItem]
    · intro _ path a a' hdiff
      cases path with
      | nil =>
        obtain ⟨rfl, rfl⟩ := hdiff
        exact .none
      | cons key path =>
        obtain ⟨origin, es, es', rfl, rfl, -⟩ := hdiff
        exact .none

end Table

namespace Document

/-- Two documents that differ in no more than a text at the end of a path. -/
structure Differ (s s' key : String) (path : List String) (d d' : Document) : Prop where
  header : d.header = d'.header
  root : Table.Differ key (Item.Differ s s' path) d.root d'.root

variable {s s' key : String} {path : List String} {d d' : Document}

theorem Differ.add (h : Differ s s' key path d d') (line : Line) :
    Option.Rel (Differ s s' key path) (d.add line) (d'.add line) := by
  have root {header : List String} {x x' : Option Table}
      (hx : Option.Rel (Table.Differ key (Item.Differ s s' path)) x x') :
      Option.Rel (Differ s s' key path) (x.map fun root => ⟨root, header⟩)
        (x'.map fun root => ⟨root, header⟩) := by
    cases hx with
    | none => exact .none
    | some ht => exact .some ⟨rfl, ht⟩
  obtain ⟨hheader, hroot⟩ := h
  cases line with
  | empty => exact .some ⟨hheader, hroot⟩
  | header keys => exact root (Table.openTable_keeps keys hroot)
  | nextHeader keys => exact root (Table.openNext_keeps keys hroot)
  | entry keys item =>
    simp only [Document.add, ← hheader]
    exact root (Table.change_keeps (Table.insert_keeps keys item) false d.header hroot)

theorem Differ.lines (h : Differ s s' key path d d') (cs : List Char) :
    Option.Rel (Differ s s' key path) (lines d cs) (lines d' cs) := by
  induction hlen : cs.length using Nat.strong_induction_on generalizing d d' cs with
  | h n ih =>
    rw [lines_eq d, lines_eq d']
    split
    · exact .some h
    next c tail hstart =>
      cases hline : content (c :: tail) with
      | none => exact .none
      | some r =>
        obtain ⟨line, rest⟩ := r
        have hadd := h.add line
        simp only [Option.bind_some]
        generalize d.add line = x, d'.add line = x' at hadd ⊢
        cases hadd with
        | none => exact .none
        | some h =>
          simp only [Option.bind_some]
          cases hend : lineEnd rest with
          | none => exact .none
          | some after =>
            refine ih after.length ?_ h after rfl
            rw [← hlen]
            exact length_of_line hstart hline hend

end Document

end PortShare.Toml
