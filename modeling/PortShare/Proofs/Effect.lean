import PortShare.Proofs.Sound

/-! What a command that meets no trouble does to a sound store: it replaces, appends or removes one
devurl of the environment that it names. A devurl is chosen by its port and changed by its id, and
because ids tell devurls apart that is the same one. -/

namespace PortShare

/-- The devurl that a request for a port leaves under an id. -/
def DevUrl.put (id : String) (port : UInt16) (access : AccessLevel) (name : String) : DevUrl :=
  ⟨id, "http://" ++ Numeral.decimal port.toNat ++ ".example.com", port, nonEmpty? name, access⟩

/-- What a command makes of the devurls of its environment and of the number of those created, and
the outcome that it reports. -/
inductive Effect (created : Nat) :
    Command → List DevUrl → List DevUrl → Nat → Outcome → Prop where
  | replaced {r : Request} {port : UInt16} {access : AccessLevel} {pre post : List DevUrl}
      {u : DevUrl} :
      readPort r.port = .ok port → AccessLevel.ofName? r.access = some access →
      u.port = port → (∀ w ∈ pre, w.port ≠ port) →
      Effect created (.upsert r) (pre ++ u :: post)
        (pre ++ .put u.id port access r.name :: post) created (.updated u.id port)
  | appended {r : Request} {port : UInt16} {access : AccessLevel} {urls : List DevUrl} :
      readPort r.port = .ok port → AccessLevel.ofName? r.access = some access →
      (∀ w ∈ urls, w.port ≠ port) →
      Effect created (.upsert r) urls (urls ++ [.put (newId (created + 1)) port access r.name])
        (created + 1) (.created port)
  | removed {name typed : String} {port : UInt16} {pre post : List DevUrl} {u : DevUrl} :
      readPort typed = .ok port → u.port = port → (∀ w ∈ pre, w.port ≠ port) →
      Effect created (.remove name typed) (pre ++ u :: post) (pre ++ post) created
        (.deleted u.id port)

/-- A command has one effect on given devurls. -/
theorem Effect.unique {created created₁ created₂ : Nat} {c : Command}
    {urls urls₁ urls₂ : List DevUrl} {o₁ o₂ : Outcome}
    (h₁ : Effect created c urls urls₁ created₁ o₁) (h₂ : Effect created c urls urls₂ created₂ o₂) :
    urls₁ = urls₂ ∧ created₁ = created₂ ∧ o₁ = o₂ := by
  have port_eq {s : String} {port port' : UInt16} (hp : readPort s = .ok port)
      (hp' : readPort s = .ok port') : port = port' := Except.ok.inj (hp.symm.trans hp')
  generalize hurls : urls = urls' at h₂
  cases h₁ with
  | replaced hp ha hu hpre =>
    cases h₂ with
    | replaced hp' ha' hu' hpre' =>
      obtain rfl := port_eq hp hp'
      obtain rfl := Option.some.inj (ha.symm.trans ha')
      obtain ⟨rfl, rfl, rfl⟩ := split_unique hurls hu hu' hpre hpre'
      exact ⟨rfl, rfl, rfl⟩
    | appended hp' _ hn =>
      obtain rfl := port_eq hp hp'
      exact absurd hu (hn _ (by simp [← hurls]))
  | appended hp ha hn =>
    cases h₂ with
    | replaced hp' _ hu _ =>
      obtain rfl := port_eq hp hp'
      exact absurd hu (hn _ (by simp [hurls]))
    | appended hp' ha' _ =>
      obtain rfl := port_eq hp hp'
      obtain rfl := Option.some.inj (ha.symm.trans ha')
      subst hurls
      exact ⟨rfl, rfl, rfl⟩
  | removed hp hu hpre =>
    cases h₂ with
    | removed hp' hu' hpre' =>
      obtain rfl := port_eq hp hp'
      obtain ⟨rfl, rfl, rfl⟩ := split_unique hurls hu hu' hpre hpre'
      exact ⟨rfl, rfl, rfl⟩

/-- A change that a command calls for is made, and its outcome reported. -/
theorem Command.run_of_change {c : Command} {store : Store} {env : Environment} {call : Call}
    {o : Outcome} (hf : store.find? c.environment = some env)
    (hc : Change c env (store.urls env.id) call o) :
    (c.plan.run Visit.service ⟨store, none, []⟩).1 = .ok o.completion ∧
      (c.plan.run Visit.service ⟨store, none, []⟩).2.store = (store.answer call).2 := by
  have hr : store.reply none (.resolve c.environment) = .ok env := by
    simp only [Store.reply, Store.answer, hf]
  obtain ⟨ht, ho⟩ := (c.course Visit.service ⟨store, none, []⟩).turns_of_change
    (c.turn_answer store none) hr rfl hc
  obtain ⟨a, ha⟩ : ∃ a, store.reply none call = .ok a := by
    cases hc <;> exact ⟨(), rfl⟩
  refine ⟨ho a ha, ?_⟩
  rw [Plan.store_run, ht]
  simp only [List.foldl_cons, List.foldl_nil, Turn.effect, Store.answer, hf, ha]

/-- The call for a change has its effect on the environment that was listed. -/
theorem Change.effect_of_distinct {c : Command} {store : Store} {before after : List Holding}
    {h : Holding} {call : Call} {o : Outcome} (hs : store.Distinct)
    (hh : store.Holds c.environment before h after)
    (hc : Change c h.environment h.urls call o) :
    ∃ urls created, Effect store.created c h.urls urls created o ∧
      (store.answer call).2 = ⟨before ++ ⟨h.environment, urls⟩ :: after, created⟩ := by
  have hd : (h.urls.map DevUrl.id).Nodup := hs.devurls h (by simp [hh.split])
  have changed (f : List DevUrl → List DevUrl) : store.change h.environment.id f =
      ⟨before ++ ⟨h.environment, f h.urls⟩ :: after, store.created⟩ := by
    rw [← hh.change hs.environments f]
    rfl
  cases hc with
  | create hp ha _ hn =>
    refine ⟨_, _, .appended hp ha hn, ?_⟩
    simp only [Store.answer, Store.create, changed]
    rfl
  | update hp ha _ hu =>
    obtain ⟨pre, post, hsplit, hup, hpre⟩ := hu
    rw [hsplit] at hd ⊢
    refine ⟨_, _, .replaced hp ha hup hpre, ?_⟩
    simp only [Store.answer, Store.update, changed]
    rw [hsplit, changeFirst_append (fun w hw => by simp [ne_of_nodup_map hd w hw]) (by simp)]
    rfl
  | delete hp hu =>
    obtain ⟨pre, post, hsplit, hup, hpre⟩ := hu
    rw [hsplit] at hd ⊢
    refine ⟨_, _, .removed hp hup hpre, ?_⟩
    simp only [Store.answer, Store.delete, changed]
    rw [hsplit, List.eraseP_append_right _ fun w hw => by simp [ne_of_nodup_map hd w hw]]
    simp

theorem Change.effect {c : Command} {store : Store} {before after : List Holding} {h : Holding}
    {call : Call} {o : Outcome} (hs : store.Sound) (hh : store.Holds c.environment before h after)
    (hc : Change c h.environment h.urls call o) :
    ∃ urls created, Effect store.created c h.urls urls created o ∧
      (store.answer call).2 = ⟨before ++ ⟨h.environment, urls⟩ :: after, created⟩ :=
  hc.effect_of_distinct hs.distinct hh

/-- In the course of every session, a command without trouble that applies to its environment has
its effect there, and on nothing else in the store; an id that it gives was not in use. -/
theorem Step.effect_of_applies (start : Store) (hi : start.Initial) (steps : List Step)
    (c : Command) (hc : c.verdict = .ok ()) (before after : List Holding) (h : Holding)
    (hh : (start.after steps).Holds c.environment before h after) (ha : c.Applies h.urls) :
    (∃ urls created o, Effect (start.after steps).created c h.urls urls created o ∧
      ((⟨c, none, none⟩ : Step).run (start.after steps)).1 = .ok (some o) ∧
      (⟨c, none, none⟩ : Step).after (start.after steps) =
        ⟨before ++ ⟨h.environment, urls⟩ :: after, created⟩) ∧
    ∀ g ∈ (start.after steps).holdings, ∀ u ∈ g.urls,
      u.id ≠ newId ((start.after steps).created + 1) := by
  have hs := hi.sound.after steps
  refine ⟨?_, fun g hg u hu hid => Nat.not_succ_le_self _ (hs.fresh g hg u hu _ hid)⟩
  obtain ⟨call, o, hch⟩ := (c.exists_change_iff h.environment h.urls).mpr ⟨hc, ha⟩
  obtain ⟨urls, created, heff, hurls⟩ := hch.effect hs hh
  rw [← hh.urls hs.environments] at hch
  obtain ⟨hr, hst⟩ := Command.run_of_change hh.find? hch
  refine ⟨urls, created, o, heff, ?_, ?_⟩
  · rw [Step.run, Command.run_unlimited, hr]
    rfl
  · rw [Step.after, Step.run, Command.snd_run, hst, hurls]

/-- Of two devurls on one port, the first is removed. -/
theorem Step.effect_on_two_of_a_port :
    let start : Store := ⟨[⟨⟨"e1", "dev"⟩, [⟨"a", "", 8080, none, .owner⟩,
      ⟨"b", "", 8080, none, .owner⟩]⟩], 0⟩
    ∃ urls created o, Effect 0 (.remove "dev" "8080") [⟨"a", "", 8080, none, .owner⟩,
        ⟨"b", "", 8080, none, .owner⟩] urls created o ∧
      ((⟨.remove "dev" "8080", none, none⟩ : Step).run start).1 = .ok (some o) ∧
      (⟨.remove "dev" "8080", none, none⟩ : Step).after start =
        ⟨[⟨⟨"e1", "dev"⟩, urls⟩], created⟩ := by
  intro start
  have hi : start.Initial := by
    refine ⟨by decide, by decide, ?_⟩
    intro h hh u hu n hn
    have hc := congrArg String.toList hn
    rw [newId, String.toList_append] at hc
    obtain rfl := List.mem_singleton.mp hh
    simp only [List.mem_cons, List.not_mem_nil, or_false] at hu
    rcases hu with rfl | rfl <;> exact absurd (List.cons.inj hc).1 (by decide)
  have hh : (start.after []).Holds "dev" [] ⟨⟨"e1", "dev"⟩, [⟨"a", "", 8080, none, .owner⟩,
      ⟨"b", "", 8080, none, .owner⟩]⟩ [] :=
    ⟨rfl, rfl, fun _ hb => absurd hb List.not_mem_nil⟩
  exact (Step.effect_of_applies start hi [] (.remove "dev" "8080") rfl [] [] _ hh
    ⟨8080, rfl, _, List.mem_cons_self, rfl⟩).1

end PortShare
