import PortShare.Proofs.Course
import PortShare.Store

/-! The parts of a store: where an environment stands in it, and what a change to the devurls of one
environment does to the whole. -/

namespace PortShare

theorem changeFirst_append {α : Type} {p : α → Bool} {f : α → α} {before after : List α} {a : α}
    (hb : ∀ b ∈ before, p b = false) (ha : p a = true) :
    changeFirst p f (before ++ a :: after) = before ++ f a :: after := by
  induction before with
  | nil => simp [changeFirst, ha]
  | cons b bs ih =>
    simp only [List.cons_append, changeFirst, hb b (by simp)]
    rw [ih fun c hc => hb c (by simp [hc])]
    rfl

/-- What holds of `f a` for each item `a` that is changed, and of the items that are not, holds of
all items afterwards. -/
theorem forall_mem_changeFirst {α : Type} {p : α → Bool} {f : α → α} {q : α → Prop} {as : List α}
    (h : ∀ a ∈ as, q a) (hf : ∀ a ∈ as, p a = true → q (f a)) : ∀ a ∈ changeFirst p f as, q a := by
  induction as with
  | nil => intro a ha; cases ha
  | cons b bs ih =>
    intro a ha
    simp only [changeFirst] at ha
    split at ha
    · next hb =>
      rcases List.mem_cons.mp ha with rfl | ha
      · exact hf b (by simp) hb
      · exact h a (by simp [ha])
    · rcases List.mem_cons.mp ha with rfl | ha
      · exact h a (by simp)
      · exact ih (fun c hc => h c (by simp [hc])) (fun c hc => hf c (by simp [hc])) a ha

theorem map_changeFirst {α β : Type} {p : α → Bool} {f : α → α} {g : α → β}
    (h : ∀ a, g (f a) = g a) (as : List α) : (changeFirst p f as).map g = as.map g := by
  induction as with
  | nil => rfl
  | cons a as ih =>
    simp only [changeFirst]
    split
    · simp [h]
    · simp [ih]

theorem ne_of_nodup_map {α β : Type} {f : α → β} {before after : List α} {a : α}
    (h : ((before ++ a :: after).map f).Nodup) : ∀ b ∈ before, f b ≠ f a := by
  intro b hb
  rw [List.map_append, List.nodup_append] at h
  exact h.2.2 _ (List.mem_map_of_mem hb) _ (by simp)

/-- Is `h` the first environment of that name, between two parts of the store? -/
structure Store.Holds (store : Store) (name : String) (before : List Holding) (h : Holding)
    (after : List Holding) : Prop where
  split : store.holdings = before ++ h :: after
  named : h.environment.name = name
  first : ∀ b ∈ before, b.environment.name ≠ name

namespace Store.Holds

variable {store : Store} {name : String} {before after : List Holding} {h : Holding}

theorem find? (hh : store.Holds name before h after) : store.find? name = some h.environment := by
  have : store.holdings.find? (fun g => g.environment.name == name) = some h := by
    rw [find?_eq_some_iff_isFirst]
    exact ⟨before, after, hh.split, by simp [hh.named], fun b hb => by simp [hh.first b hb]⟩
  rw [Store.find?, this]
  rfl

theorem exists_of_find? {env : Environment} (hf : store.find? name = some env) :
    ∃ before h after, store.Holds name before h after ∧ h.environment = env := by
  obtain ⟨h, hh, rfl⟩ := Option.map_eq_some_iff.mp hf
  obtain ⟨before, after, hsplit, hn, hb⟩ := find?_eq_some_iff_isFirst.mp hh
  exact ⟨before, h, after, ⟨hsplit, by simpa using hn, fun b hm => by simpa using hb b hm⟩, rfl⟩

/-- The environment stands in the same place with other devurls. -/
theorem withUrls (hh : store.Holds name before h after) (urls : List DevUrl) (created : Nat) :
    (⟨before ++ ⟨h.environment, urls⟩ :: after, created⟩ : Store).Holds name before
      ⟨h.environment, urls⟩ after :=
  ⟨rfl, hh.named, hh.first⟩

theorem id_ne (hh : store.Holds name before h after)
    (hn : (store.holdings.map fun h => h.environment.id).Nodup) :
    ∀ b ∈ before, b.environment.id ≠ h.environment.id := by
  rw [hh.split] at hn
  exact ne_of_nodup_map hn

theorem urls (hh : store.Holds name before h after)
    (hn : (store.holdings.map fun h => h.environment.id).Nodup) :
    store.urls h.environment.id = h.urls := by
  have : store.holdings.find? (fun g => g.environment.id == h.environment.id) = some h := by
    rw [find?_eq_some_iff_isFirst]
    exact ⟨before, after, hh.split, by simp, fun b hb => by simp [hh.id_ne hn b hb]⟩
  rw [Store.urls, this]

theorem change (hh : store.Holds name before h after)
    (hn : (store.holdings.map fun h => h.environment.id).Nodup) (f : List DevUrl → List DevUrl) :
    (store.change h.environment.id f).holdings =
      before ++ ⟨h.environment, f h.urls⟩ :: after := by
  rw [Store.change, hh.split]
  exact changeFirst_append (fun b hb => by simp [hh.id_ne hn b hb]) (by simp)

end Store.Holds

end PortShare
