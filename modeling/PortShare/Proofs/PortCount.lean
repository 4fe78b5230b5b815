import Mathlib.Data.List.Forall2
import Mathlib.Data.List.Nodup
import PortShare.Proofs.Effect

/-! How many devurls of an environment stand on one port. No step of a session raises that number
above one: where a port is taken, a devurl on it is replaced or removed, and none is added. -/

namespace PortShare

theorem Store.answer_of_reply {store : Store} {trouble : Option Trouble} {call : Call}
    {a : call.Answer} (h : store.reply trouble call = .ok a) : (store.answer call).1 = .ok a := by
  unfold Store.reply at h
  split at h
  · split at h
    · cases h
    · exact h
  · exact h

theorem Store.find?_of_reply {store : Store} {trouble : Option Trouble} {name : String}
    {env : Environment} (h : store.reply trouble (.resolve name) = .ok env) :
    store.find? name = some env := by
  have ha := Store.answer_of_reply h
  simp only [Store.answer] at ha
  split at ha
  · next found hf =>
    obtain rfl := Except.ok.inj ha
    exact hf
  · cases ha

theorem Turn.effect_of_reads {ts : List Turn} (h : ∀ t ∈ ts, t.call.isMutation = false)
    (store : Store) : ts.foldl Turn.effect store = store :=
  Turn.effect_of_still fun t ht => Turn.effect_of_read store (h t ht)

/-- A step leaves the store as it is, or it has its effect on the environment that its command
names, and on nothing else. -/
theorem Step.after_cases {store : Store} (hs : store.Sound) (s : Step) :
    s.after store = store ∨ ∃ before h after urls created o,
      store.Holds s.command.environment before h after ∧
      Effect store.created s.command h.urls urls created o ∧
      s.after store = ⟨before ++ ⟨h.environment, urls⟩ :: after, created⟩ := by
  rw [Step.after_eq]
  have ha := s.command.turn_answer store s.trouble
  have hc := s.command.course Visit.service ⟨store, s.trouble, []⟩
  generalize s.command.plan.turns Visit.service ⟨store, s.trouble, []⟩ = ts at ha hc
  generalize (s.command.plan.run Visit.service ⟨store, s.trouble, []⟩).1 = result at hc
  cases hc with
  | refused _ | unresolved _ | unlisted _ =>
    exact .inl (Turn.effect_of_reads (by simp [Call.isMutation]) store)
  | @listed env urls _ _ _ he =>
    obtain ⟨hr, hl, ht⟩ := ha
    have hf := Store.find?_of_reply hr.symm
    obtain rfl : store.urls env.id = urls := Except.ok.inj (Store.answer_of_reply hl.symm)
    have hread : ∀ ts, List.foldl Turn.effect store
        (⟨.resolve s.command.environment, .ok env⟩ ::
          ⟨.list env.id, .ok (store.urls env.id)⟩ :: ts) = ts.foldl Turn.effect store := by
      intro ts
      simp only [List.foldl_cons, Turn.effect, Store.answer, hf]
    rw [hread]
    cases he with
    | shown _ | absent _ _ _ => exact .inl rfl
    | failed _ => exact .inl rfl
    | changed hch =>
      obtain ⟨before, h, after, hh, rfl⟩ := Store.Holds.exists_of_find? hf
      rw [hh.urls hs.environments] at hch
      obtain ⟨urls, created, heff, hst⟩ := hch.effect hs hh
      exact .inr ⟨before, h, after, urls, created, _, hh, heff, hst⟩

/-- How many devurls stand on a port. -/
def countOn (port : UInt16) (urls : List DevUrl) : Nat := (urls.map DevUrl.port).count port

theorem countOn_cons (port : UInt16) (u : DevUrl) (urls : List DevUrl) :
    countOn port (u :: urls) = countOn port urls + if u.port == port then 1 else 0 := by
  simp only [countOn, List.map_cons, List.count_cons]

theorem countOn_append (port : UInt16) (urls urls' : List DevUrl) :
    countOn port (urls ++ urls') = countOn port urls + countOn port urls' := by
  simp only [countOn, List.map_append, List.count_append]

theorem countOn_eq_zero {port : UInt16} {urls : List DevUrl} (h : ∀ u ∈ urls, u.port ≠ port) :
    countOn port urls = 0 := by
  refine List.count_eq_zero_of_not_mem fun hm => ?_
  obtain ⟨u, hu, hp⟩ := List.mem_map.mp hm
  exact h u hu hp

theorem nodup_ports_iff {urls : List DevUrl} :
    (urls.map DevUrl.port).Nodup ↔ ∀ port, countOn port urls ≤ 1 :=
  List.nodup_iff_count_le_one

/-- A command adds to a port only where the port is free. -/
theorem Effect.countOn_le {created created' : Nat} {c : Command} {urls urls' : List DevUrl}
    {o : Outcome} (h : Effect created c urls urls' created' o) (port : UInt16) :
    countOn port urls' ≤ max 1 (countOn port urls) := by
  cases h with
  | @replaced r p access pre post u _ _ hu _ =>
    have hput : (DevUrl.put u.id p access r.name).port = u.port := hu.symm
    simp only [countOn_append, countOn_cons, hput]
    exact Nat.le_max_right _ _
  | @appended r p access _ _ _ hn =>
    rw [countOn_append, countOn_cons]
    by_cases hp : p = port
    · subst hp
      rw [countOn_eq_zero hn]
      simp [countOn, DevUrl.put]
    · have hput : ((DevUrl.put (newId (created + 1)) p access r.name).port == port) = false :=
        beq_eq_false_iff_ne.mpr hp
      rw [hput]
      exact Nat.le_max_right _ _
  | removed _ _ _ =>
    simp only [countOn_append, countOn_cons]
    omega

/-- `h` is what has become of `g`: the same environment, with no more devurls on a port than before,
or only one. -/
def Holding.Within (g h : Holding) : Prop :=
  h.environment = g.environment ∧ ∀ port, countOn port h.urls ≤ max 1 (countOn port g.urls)

theorem Holding.Within.refl (g : Holding) : g.Within g := ⟨rfl, fun _ => Nat.le_max_right _ _⟩

theorem Holding.Within.trans {f g h : Holding} (hfg : f.Within g) (hgh : g.Within h) :
    f.Within h := by
  refine ⟨hgh.1.trans hfg.1, fun port => ?_⟩
  have := hfg.2 port
  have := hgh.2 port
  omega

theorem forall₂_trans {α : Type} {r : α → α → Prop} (hr : ∀ a b c, r a b → r b c → r a c)
    {as bs cs : List α} (hab : List.Forall₂ r as bs) (hbc : List.Forall₂ r bs cs) :
    List.Forall₂ r as cs := by
  induction hab generalizing cs with
  | nil => exact hbc
  | cons ha _ ih =>
    cases hbc with
    | cons hb hbs => exact .cons (hr _ _ _ ha hb) (ih hbs)

theorem forall₂_exists_left {α β : Type} {r : α → β → Prop} {as : List α} {bs : List β}
    (h : List.Forall₂ r as bs) {b : β} (hb : b ∈ bs) : ∃ a ∈ as, r a b := by
  induction h with
  | nil => cases hb
  | cons hr _ ih =>
    rcases List.mem_cons.mp hb with rfl | hb
    · exact ⟨_, by simp, hr⟩
    · obtain ⟨a, ha, hra⟩ := ih hb
      exact ⟨a, by simp [ha], hra⟩

theorem Step.within {store : Store} (hs : store.Sound) (s : Step) :
    List.Forall₂ Holding.Within store.holdings (s.after store).holdings := by
  have same : ∀ gs : List Holding, List.Forall₂ Holding.Within gs gs :=
    fun gs => List.forall₂_same.mpr fun g _ => .refl g
  rcases Step.after_cases hs s with h | ⟨before, h, after, urls, created, o, hh, heff, ha⟩
  · rw [h]
    exact same _
  · rw [ha, hh.split]
    exact List.rel_append (same before) (.cons ⟨rfl, heff.countOn_le⟩ (same after))

theorem Store.Sound.within {store : Store} (h : store.Sound) (steps : List Step) :
    List.Forall₂ Holding.Within store.holdings (store.after steps).holdings := by
  induction steps generalizing store with
  | nil => exact List.forall₂_same.mpr fun g _ => .refl g
  | cons s steps ih =>
    exact forall₂_trans (fun _ _ _ => .trans) (Step.within h s) (ih (h.step s))

/-- In the course of every session, no environment gets more devurls on a port than it had at the
start, if it had any, and never more than one if it had none. Where ports told devurls apart they
still do, and ids always do. -/
theorem Store.no_more_on_a_port (start : Store) (hi : start.Initial) (steps : List Step) :
    List.Forall₂ Holding.Within start.holdings (start.after steps).holdings ∧
    ((∀ g ∈ start.holdings, (g.urls.map DevUrl.port).Nodup) →
      ∀ h ∈ (start.after steps).holdings, (h.urls.map DevUrl.port).Nodup) ∧
    ∀ h ∈ (start.after steps).holdings, (h.urls.map DevUrl.id).Nodup := by
  have hw := hi.sound.within steps
  refine ⟨hw, fun hn h hh => ?_, (hi.sound.after steps).devurls⟩
  obtain ⟨g, hg, -, hle⟩ := forall₂_exists_left hw hh
  rw [nodup_ports_iff]
  intro port
  have := nodup_ports_iff.mp (hn g hg) port
  have := hle port
  omega

/-- A port is asked for twice, the second time in vain, and another one is given up. -/
theorem Store.ports_apart_after_three_steps :
    let start : Store := ⟨[⟨⟨"e1", "dev"⟩, [⟨"a", "", 8080, none, .owner⟩,
      ⟨"b", "", 9090, none, .owner⟩]⟩], 0⟩
    let steps : List Step := [⟨.upsert ⟨"dev", "3000", "org", ""⟩, none, none⟩,
      ⟨.upsert ⟨"dev", "3000", "org", ""⟩, some ⟨.mutate, none⟩, none⟩,
      ⟨.remove "dev" "9090", none, some 0⟩]
    start.Initial ∧ (∀ g ∈ start.holdings, (g.urls.map DevUrl.port).Nodup) ∧
      ∀ h ∈ (start.after steps).holdings, (h.urls.map DevUrl.port).Nodup := by
  intro start steps
  have hi : start.Initial := by
    refine ⟨by decide, by decide, ?_⟩
    have heads : ∀ h ∈ start.holdings, ∀ u ∈ h.urls, u.id.toList.head? ≠ some 'n' := by decide
    exact fun h hh u hu => ne_newId (heads h hh u hu)
  have hp : ∀ g ∈ start.holdings, (g.urls.map DevUrl.port).Nodup := by decide
  exact ⟨hi, hp, (Store.no_more_on_a_port start hi steps).2.1 hp⟩

end PortShare
