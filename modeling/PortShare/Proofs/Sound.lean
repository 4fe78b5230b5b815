import PortShare.Proofs.Holdings
import PortShare.Proofs.Numeral
import PortShare.Proofs.ReadBeforeWrite
import PortShare.Session

/-! Soundness of a store: ids tell environments apart, and within each of them devurls, and no id
is taken that is still to be given. Every step of a session keeps it. -/

namespace PortShare

/-- The id of the `n`th devurl that is created. -/
def newId (n : Nat) : String := "new-" ++ Numeral.decimal n

theorem newId_inj {m n : Nat} : newId m = newId n ↔ m = n := by
  refine ⟨fun h => ?_, fun h => by rw [h]⟩
  have := congrArg String.toList h
  simp only [newId, String.toList_append, List.append_cancel_left_eq] at this
  exact Numeral.decimal_inj.mp (String.toList_injective this)

theorem ne_newId {s : String} (h : s.toList.head? ≠ some 'n') (n : Nat) : s ≠ newId n := by
  rintro rfl
  rw [newId, String.toList_append] at h
  exact h rfl

namespace Store

/-- Do ids tell environments apart, and within each of them devurls? -/
structure Distinct (store : Store) : Prop where
  environments : (store.holdings.map fun h => h.environment.id).Nodup
  devurls : ∀ h ∈ store.holdings, (h.urls.map DevUrl.id).Nodup

/-- Ids tell things apart, and those of the devurls to come are free. -/
structure Sound (store : Store) : Prop where
  environments : (store.holdings.map fun h => h.environment.id).Nodup
  devurls : ∀ h ∈ store.holdings, (h.urls.map DevUrl.id).Nodup
  fresh : ∀ h ∈ store.holdings, ∀ u ∈ h.urls, ∀ n, u.id = newId n → n ≤ store.created

/-- A store at the start of a session: ids tell things apart, and none is one that is given. -/
structure Initial (store : Store) : Prop where
  environments : (store.holdings.map fun h => h.environment.id).Nodup
  devurls : ∀ h ∈ store.holdings, (h.urls.map DevUrl.id).Nodup
  unused : ∀ h ∈ store.holdings, ∀ u ∈ h.urls, ∀ n, u.id ≠ newId n

theorem initial_of_heads {store : Store}
    (he : (store.holdings.map fun h => h.environment.id).Nodup)
    (hd : ∀ h ∈ store.holdings, (h.urls.map DevUrl.id).Nodup)
    (heads : ∀ h ∈ store.holdings, ∀ u ∈ h.urls, u.id.toList.head? ≠ some 'n') : store.Initial :=
  ⟨he, hd, fun h hh u hu => ne_newId (heads h hh u hu)⟩

theorem Sound.distinct {store : Store} (h : store.Sound) : store.Distinct :=
  ⟨h.environments, h.devurls⟩

theorem Initial.sound {store : Store} (h : store.Initial) : store.Sound :=
  ⟨h.environments, h.devurls, fun g hg u hu n hn => absurd hn (h.unused g hg u hu n)⟩

/-- A change to the devurls of one environment keeps a store sound if it keeps their ids apart
and the ids to come free. -/
theorem Sound.change {store : Store} (h : store.Sound) (id : String)
    {f : List DevUrl → List DevUrl} {created : Nat} (hc : store.created ≤ created)
    (hf : ∀ g ∈ store.holdings, ((f g.urls).map DevUrl.id).Nodup ∧
      ∀ u ∈ f g.urls, ∀ n, u.id = newId n → n ≤ created) :
    ({ store.change id f with created } : Store).Sound := by
  refine ⟨?_, ?_, ?_⟩
  · simp only [Store.change]
    rw [map_changeFirst (f := fun g : Holding => { g with urls := f g.urls }) fun _ => rfl]
    exact h.environments
  · exact forall_mem_changeFirst h.devurls fun g hg _ => (hf g hg).1
  · exact forall_mem_changeFirst
      (fun g hg u hu n hn => Nat.le_trans (h.fresh g hg u hu n hn) hc) fun g hg _ => (hf g hg).2

theorem Sound.create {store : Store} (h : store.Sound) (id : String) (m : Mutation) :
    (store.create id m).Sound := by
  refine h.change id (Nat.le_succ _) fun g hg => ⟨?_, ?_⟩
  · rw [List.map_append, List.nodup_append]
    refine ⟨h.devurls g hg, by simp, ?_⟩
    intro a ha b hb hab
    obtain ⟨u, hu, rfl⟩ := List.mem_map.mp ha
    simp only [List.map_cons, List.map_nil, List.mem_singleton] at hb
    have := h.fresh g hg u hu (store.created + 1) (hab.trans hb)
    omega
  · intro u hu n hn
    rcases List.mem_append.mp hu with hu | hu
    · exact Nat.le_succ_of_le (h.fresh g hg u hu n hn)
    · obtain rfl := List.mem_singleton.mp hu
      exact Nat.le_of_eq (newId_inj.mp hn).symm

theorem Sound.update {store : Store} (h : store.Sound) (id url : String) (m : Mutation) :
    (store.update id url m).Sound := by
  refine h.change id (Nat.le_refl _) fun g hg => ⟨?_, ?_⟩
  · rw [map_changeFirst (f := m.apply) fun _ => rfl]
    exact h.devurls g hg
  · exact forall_mem_changeFirst (h.fresh g hg) fun u hu _ => h.fresh g hg u hu

theorem Sound.delete {store : Store} (h : store.Sound) (id url : String) :
    (store.delete id url).Sound := by
  refine h.change id (Nat.le_refl _) fun g hg => ⟨?_, ?_⟩
  · exact (List.eraseP_sublist.map DevUrl.id).nodup (h.devurls g hg)
  · exact fun u hu => h.fresh g hg u (List.mem_of_mem_eraseP hu)

theorem Sound.answer {store : Store} (h : store.Sound) (call : Call) :
    (store.answer call).2.Sound := by
  cases call with
  | resolve name =>
    rw [snd_answer_of_read store rfl]
    exact h
  | list id => exact h
  | create id m => exact h.create id m
  | update id url m => exact h.update id url m
  | delete id url => exact h.delete id url

end Store

/-- The store after a step is what the turns of its command leave. -/
theorem Step.after_eq (s : Step) (store : Store) :
    s.after store = (s.command.plan.turns Visit.service ⟨store, s.trouble, []⟩).foldl
      Turn.effect store := by
  rw [Step.after, Step.run, Command.snd_run, Plan.store_run]

/-- What the answer to each call of a step keeps is kept by the step. -/
theorem Step.after_of_answers {s : Step} {store : Store} {p : Store → Prop} (h : p store)
    (hts : ∀ t ∈ s.command.plan.turns Visit.service ⟨store, s.trouble, []⟩,
      ∀ store', p store' → p (store'.answer t.call).2) : p (s.after store) := by
  rw [Step.after_eq]
  refine List.foldlRecOn _ Turn.effect h fun store' hp t ht => ?_
  unfold Turn.effect
  split
  · exact hts t ht store' hp
  · exact hp

/-- What each step keeps is kept by a session. -/
theorem Store.after_of_steps {store : Store} {p : Store → Prop} (h : p store)
    (hs : ∀ s : Step, ∀ store', p store' → p (s.after store')) (steps : List Step) :
    p (store.after steps) :=
  List.foldlRecOn steps _ h fun store' hp s _ => hs s store' hp

theorem Store.Sound.step {store : Store} (h : store.Sound) (s : Step) : (s.after store).Sound :=
  Step.after_of_answers h fun t _ _ h' => h'.answer t.call

/-- Every session keeps a store sound. -/
theorem Store.Sound.after {store : Store} (h : store.Sound) (steps : List Step) :
    (store.after steps).Sound :=
  Store.after_of_steps h (fun s _ h' => h'.step s) steps

end PortShare
