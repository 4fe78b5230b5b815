import PortShare.Proofs.Transcript
import PortShare.Proofs.Validation
import PortShare.Wire

/-! Only what has been checked gets through to a store. Whatever is typed in a session, each change
that is called for is in order, and so is each devurl that was not there at the start. -/

namespace PortShare

/-- Is every part of the change in order, and is it for the environment of that id? -/
structure Mutation.InOrder (environmentId : String) (m : Mutation) : Prop where
  environmentId : m.environmentId = environmentId
  port : 1 ≤ m.port.toNat
  name : m.name = "" ∨ IsProperName m.name
  scheme : m.scheme = "http"

/-- Is every part that a change sets in order? -/
structure DevUrl.InOrder (u : DevUrl) : Prop where
  port : 1 ≤ u.port.toNat ∧ u.port.toNat ≤ 65535
  access : u.access.name ∈ accessNames
  name : ∀ s, u.name = some s → IsProperName s

/-- JSON that asks for a change in that environment, in which every part is in order. -/
def IsChangeFor (environmentId : String) (v : Json.Value) : Prop :=
  ∃ port access name, v = .object [("environment_id", .text environmentId), ("port", .natural port),
      ("access", .text access), ("name", .text name), ("scheme", .text "http")] ∧
    1 ≤ port ∧ port ≤ 65535 ∧ access ∈ accessNames ∧ (name = "" ∨ IsProperName name)

theorem le_65535 (port : UInt16) : port.toNat ≤ 65535 := Nat.le_of_lt_succ port.toNat_lt

namespace Mutation.InOrder

variable {id : String} {m : Mutation}

theorem isChangeFor (h : m.InOrder id) : IsChangeFor id m.toJson := by
  refine ⟨m.port.toNat, m.access.name, m.name, ?_, h.port, le_65535 _, m.access.name_mem, h.name⟩
  rw [Mutation.toJson, h.environmentId, h.scheme]
  rfl

theorem apply (h : m.InOrder id) (u : DevUrl) : (m.apply u).InOrder := by
  refine ⟨⟨h.port, le_65535 _⟩, m.access.name_mem, fun s hs => ?_⟩
  change nonEmpty? m.name = some s at hs
  unfold nonEmpty? at hs
  split at hs
  · cases hs
  · next hne =>
    obtain rfl := Option.some.inj hs
    exact h.name.resolve_left fun he => hne (by rw [he]; rfl)

end Mutation.InOrder

/-- What a call is to create, or to put in the place of another, and in which environment. -/
def Call.mutation? : Call → Option (String × Mutation)
  | .create id m => some (id, m)
  | .update id _ m => some (id, m)
  | .resolve _ | .list _ | .delete .. => none

theorem Change.inOrder {c : Command} {env : Environment} {urls : List DevUrl} {call : Call}
    {o : Outcome} (h : Change c env urls call o) {id : String} {m : Mutation}
    (hm : call.mutation? = some (id, m)) : m.InOrder id := by
  cases h with
  | create hp _ hn _ | update hp _ hn _ =>
    cases hm
    exact ⟨rfl, one_le_of_readPort hp, isName_iff_isProperName.mp hn, rfl⟩
  | delete _ _ => cases hm

/-- Every change that a command calls for is in order. -/
theorem Command.inOrder_of_turn {c : Command} {store : Store} {trouble : Option Trouble} {t : Turn}
    (ht : t ∈ c.plan.turns Visit.service ⟨store, trouble, []⟩) {id : String} {m : Mutation}
    (hm : t.call.mutation? = some (id, m)) : m.InOrder id := by
  have hmutation : t.call.isMutation = true := by
    cases hc : t.call with
    | resolve _ | list _ =>
      rw [hc] at hm
      cases hm
    | create _ _ | update _ _ _ | delete _ _ => rfl
  obtain ⟨env, urls, o, -, hch, -⟩ :=
    (c.course Visit.service ⟨store, trouble, []⟩).change_of_mem ht hmutation
  exact hch.inOrder hm

/-- `h` is what has become of `g`: the same environment, in which what is new is in order. -/
structure Holding.Guarded (g h : Holding) : Prop where
  environment : h.environment = g.environment
  urls : ∀ u ∈ h.urls, u ∈ g.urls ∨ u.InOrder

theorem Holding.Guarded.refl (g : Holding) : g.Guarded g := ⟨rfl, fun _ => .inl⟩

theorem Holding.Guarded.trans {f g h : Holding} (hfg : f.Guarded g) (hgh : g.Guarded h) :
    f.Guarded h := by
  refine ⟨hgh.environment.trans hfg.environment, fun u hu => ?_⟩
  rcases hgh.urls u hu with hu | hu
  · exact hfg.urls u hu
  · exact .inr hu

theorem forall₂_changeFirst {α : Type} {r : α → α → Prop} {p : α → Bool} {f : α → α}
    (hr : ∀ a, r a a) (hf : ∀ a, r a (f a)) (as : List α) :
    List.Forall₂ r as (changeFirst p f as) := by
  induction as with
  | nil => exact .nil
  | cons a as ih =>
    simp only [changeFirst]
    split
    · exact .cons (hf a) (List.forall₂_same.mpr fun b _ => hr b)
    · exact .cons (hr a) ih

namespace Store

theorem guarded_refl (store : Store) :
    List.Forall₂ Holding.Guarded store.holdings store.holdings :=
  List.forall₂_same.mpr fun g _ => .refl g

theorem guarded_change (store : Store) (id : String) {f : List DevUrl → List DevUrl}
    (hf : ∀ urls, ∀ u ∈ f urls, u ∈ urls ∨ u.InOrder) :
    List.Forall₂ Holding.Guarded store.holdings (store.change id f).holdings :=
  forall₂_changeFirst .refl (fun g => ⟨rfl, hf g.urls⟩) store.holdings

theorem guarded_answer (store : Store) {call : Call}
    (h : ∀ id m, call.mutation? = some (id, m) → m.InOrder id) :
    List.Forall₂ Holding.Guarded store.holdings (store.answer call).2.holdings := by
  cases call with
  | resolve name =>
    rw [snd_answer_of_read store rfl]
    exact store.guarded_refl
  | list id => exact store.guarded_refl
  | create id m =>
    refine store.guarded_change id (f := fun urls => urls ++ [_]) fun urls u hu => ?_
    rcases List.mem_append.mp hu with hu | hu
    · exact .inl hu
    · obtain rfl := List.mem_singleton.mp hu
      exact .inr ((h id m rfl).apply _)
  | update id url m =>
    refine store.guarded_change id fun urls => ?_
    exact forall_mem_changeFirst (fun u hu => .inl hu) fun u _ _ => .inr ((h id m rfl).apply u)
  | delete id url =>
    exact store.guarded_change id fun urls u hu => .inl (List.mem_of_mem_eraseP hu)

end Store

theorem Step.guarded (s : Step) (store : Store) :
    List.Forall₂ Holding.Guarded store.holdings (s.after store).holdings := by
  refine Step.after_of_answers
    (p := fun store' => List.Forall₂ Holding.Guarded store.holdings store'.holdings)
    store.guarded_refl fun t ht store' h => ?_
  have hanswer := store'.guarded_answer fun id m hm => Command.inOrder_of_turn ht hm
  exact forall₂_trans (fun _ _ _ => .trans) h hanswer

theorem Store.guarded (store : Store) (steps : List Step) :
    List.Forall₂ Holding.Guarded store.holdings (store.after steps).holdings :=
  store.after_of_steps
    (p := fun store' => List.Forall₂ Holding.Guarded store.holdings store'.holdings)
    store.guarded_refl
    (fun s store' h => forall₂_trans (fun _ _ _ => .trans) h (s.guarded store')) steps

/-- In every session, whatever is typed and whatever troubles are met, each call to create a devurl
or to replace one is for the first environment of the name that was typed, and everything that it
carries is in order. Each devurl that is kept was kept in its environment at the start, or is in
order. -/
theorem Store.only_checked_changes (start : Store) (steps : List Step) :
    (∀ e ∈ start.transcript steps, ∀ call ∈ e.2.calls, ∀ id m, call.mutation? = some (id, m) →
      (∃ env, IsFirst (fun env => env.name = e.1.command.environment) env start.environments ∧
        env.id = id) ∧
      IsChangeFor id m.toJson) ∧
    List.Forall₂ Holding.Guarded start.holdings (start.after steps).holdings := by
  refine ⟨fun e he call hcall id m hm => ?_, start.guarded steps⟩
  obtain ⟨before, after, -, haccount⟩ := start.exists_of_mem_transcript he
  rw [haccount, Step.account_eq] at hcall
  obtain ⟨t, ht, rfl⟩ := List.mem_map.mp hcall
  refine ⟨?_, (Command.inOrder_of_turn ht hm).isChangeFor⟩
  have hid : t.call.environmentId? = some id := by
    cases hc : t.call <;> rw [hc] at hm <;> cases hm <;> rfl
  obtain ⟨env, hf, rfl⟩ := Command.environment_of_turn ht hid
  refine ⟨env, ?_, rfl⟩
  rw [start.find?_after, find?_environments, find?_eq_some_iff_isFirst] at hf
  simpa only [beq_iff_eq] using hf

/-- Of a devurl without order and three requests for it, one request gets through. -/
theorem Store.one_of_three_requests :
    let start : Store := ⟨[⟨⟨"e1", "dev"⟩, [⟨"a", "", 0, some "-", .owner⟩]⟩,
      ⟨⟨"e2", "dev"⟩, []⟩], 0⟩
    let creation : Step := ⟨.upsert ⟨"dev", "0080", "oRg", "web2"⟩, none, none⟩
    let steps : List Step := [⟨.upsert ⟨"dev", "0", "org", ""⟩, none, none⟩, creation,
      ⟨.upsert ⟨"dev", "80", "org", "web\n"⟩, none, none⟩]
    let m : Mutation := ⟨"e1", 80, .organization, "web2", "http"⟩
    (.create "e1" m ∈ (creation.account start).calls ∧ IsChangeFor "e1" m.toJson) ∧
      List.Forall₂ Holding.Guarded start.holdings (start.after steps).holdings := by
  intro start creation steps m
  obtain ⟨hcalls, hguarded⟩ := Store.only_checked_changes start steps
  have hmem : (creation, creation.account start) ∈ start.transcript steps :=
    List.mem_cons_of_mem _ List.mem_cons_self
  have hcall : .create "e1" m ∈ (creation.account start).calls := by decide +kernel
  exact ⟨⟨hcall, (hcalls _ hmem _ hcall "e1" m rfl).2⟩, hguarded⟩

end PortShare
