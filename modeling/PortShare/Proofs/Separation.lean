import PortShare.Proofs.Transcript

/-! Environments do not interfere. What comes to other environments can be left out of a session,
and neither the devurls of an environment nor what is seen of its own steps are any different. -/

namespace PortShare

namespace Store

/-- No difference between the stores can be seen at the environment of that id. -/
structure AlikeFor (id : String) (store store' : Store) : Prop where
  environments : store.environments = store'.environments
  urls : store.urls id = store'.urls id
  created : store.created = store'.created

namespace AlikeFor

variable {id : String} {store store' store'' : Store}

theorem refl (id : String) (store : Store) : store.AlikeFor id store := ⟨rfl, rfl, rfl⟩

theorem symm (h : store.AlikeFor id store') : store'.AlikeFor id store :=
  ⟨h.environments.symm, h.urls.symm, h.created.symm⟩

theorem trans (h : store.AlikeFor id store') (h' : store'.AlikeFor id store'') :
    store.AlikeFor id store'' :=
  ⟨h.environments.trans h'.environments, h.urls.trans h'.urls, h.created.trans h'.created⟩

theorem find? (h : store.AlikeFor id store') (name : String) :
    store.find? name = store'.find? name := by
  rw [find?_environments, find?_environments, h.environments]

end AlikeFor

/-- A name that leads to another environment leads to one of another id. -/
theorem id_ne_of_find? {store : Store} {env : Environment} {name : String}
    (hids : (store.environments.map Environment.id).Nodup) (henv : env ∈ store.environments)
    (hn : store.find? name ≠ some env) :
    ∀ found, store.find? name = some found → found.id ≠ env.id := by
  intro found hf hid
  have hm : found ∈ store.environments := by
    rw [find?_environments] at hf
    exact List.mem_of_find?_eq_some hf
  rw [hf, List.inj_on_of_nodup_map hids hm henv hid] at hn
  exact hn rfl

/-- Is there an environment of that id? -/
def has (store : Store) (id : String) : Bool := store.environments.any fun env => env.id == id

theorem has_eq (store : Store) (id : String) :
    store.has id = (store.holdings.find? fun h => h.environment.id == id).isSome := by
  rw [has, environments, List.any_map, List.isSome_find?]
  rfl

end Store

theorem find?_changeFirst_of_apart {α : Type} {p q : α → Bool} {f : α → α}
    (h : ∀ a, p a = true → q a = false ∧ q (f a) = false) (as : List α) :
    (changeFirst p f as).find? q = as.find? q := by
  induction as with
  | nil => rfl
  | cons a as ih =>
    simp only [changeFirst]
    split
    · next ha => simp only [List.find?_cons, h a ha]
    · simp only [List.find?_cons, ih]

theorem find?_changeFirst_self {α : Type} {p : α → Bool} {f : α → α}
    (h : ∀ a, p a = true → p (f a) = true) (as : List α) :
    (changeFirst p f as).find? p = (as.find? p).map f := by
  induction as with
  | nil => rfl
  | cons a as ih =>
    simp only [changeFirst]
    split
    · next ha => simp only [List.find?_cons, ha, h a ha, Option.map_some]
    · next ha => simp only [List.find?_cons, ha, ih]

namespace Store

theorem urls_change_of_ne (store : Store) {id id' : String} (h : id' ≠ id)
    (f : List DevUrl → List DevUrl) : (store.change id' f).urls id = store.urls id := by
  simp only [urls, change]
  rw [find?_changeFirst_of_apart]
  intro g hg
  have hne : (g.environment.id == id) = false := by
    rw [beq_iff_eq.mp hg]
    exact beq_eq_false_iff_ne.mpr h
  exact ⟨hne, hne⟩

theorem urls_change_self (store : Store) (id : String) (f : List DevUrl → List DevUrl) :
    (store.change id f).urls id = if store.has id then f (store.urls id) else [] := by
  have h := find?_changeFirst_self (p := fun g : Holding => g.environment.id == id)
    (f := fun g => { g with urls := f g.urls }) (fun _ hg => hg) store.holdings
  simp only [urls, change, has_eq, h]
  cases store.holdings.find? fun g => g.environment.id == id <;> rfl

theorem AlikeFor.change {id : String} {store store' : Store} (h : store.AlikeFor id store')
    (f : List DevUrl → List DevUrl) : (store.change id f).AlikeFor id (store'.change id f) := by
  refine ⟨?_, ?_, h.created⟩
  · rw [environments_change, environments_change, h.environments]
  · rw [urls_change_self, urls_change_self, has, has, h.environments, h.urls]

/-- A call to the environment is answered alike, and leaves the stores alike. -/
theorem AlikeFor.answer {id : String} {store store' : Store} (h : store.AlikeFor id store')
    {call : Call} (hc : ∀ i, call.environmentId? = some i → i = id) :
    (store.answer call).1 = (store'.answer call).1 ∧
      (store.answer call).2.AlikeFor id (store'.answer call).2 := by
  cases call with
  | resolve name =>
    rw [snd_answer_of_read store rfl, snd_answer_of_read store' rfl]
    refine ⟨?_, h⟩
    simp only [Store.answer, h.find? name]
    split <;> rfl
  | list i =>
    obtain rfl := hc i rfl
    exact ⟨congrArg Except.ok h.urls, h⟩
  | create i m =>
    obtain rfl := hc i rfl
    simp only [Store.answer, Store.create, h.created]
    have := h.change (· ++ [m.apply ⟨newId (store'.created + 1), "", 0, none, .owner⟩])
    exact ⟨trivial, this.environments, this.urls, rfl⟩
  | update i url m =>
    obtain rfl := hc i rfl
    exact ⟨rfl, h.change _⟩
  | delete i url =>
    obtain rfl := hc i rfl
    exact ⟨rfl, h.change _⟩

theorem urls_answer_of_apart (store : Store) {id : String} {call : Call}
    (hc : call.environmentId? ≠ some id) : (store.answer call).2.urls id = store.urls id := by
  have apart {i : String} (hi : call.environmentId? = some i) : i ≠ id := by
    rintro rfl
    exact hc hi
  cases call with
  | resolve name => rw [snd_answer_of_read store rfl]
  | list i => rfl
  | create i m => exact store.urls_change_of_ne (apart rfl) fun urls => urls ++ [_]
  | update i url m => exact store.urls_change_of_ne (apart rfl) _
  | delete i url => exact store.urls_change_of_ne (apart rfl) _

theorem AlikeFor.reply {id : String} {store store' : Store} (h : store.AlikeFor id store')
    (trouble : Option Trouble) {call : Call} (hc : ∀ i, call.environmentId? = some i → i = id) :
    store.reply trouble call = store'.reply trouble call := by
  unfold Store.reply
  rw [(h.answer hc).1]

end Store

theorem Turn.alikeFor_effect {id : String} {store store' : Store} (h : store.AlikeFor id store')
    {t : Turn} (hc : ∀ i, t.call.environmentId? = some i → i = id) :
    (t.effect store).AlikeFor id (t.effect store') := by
  unfold Turn.effect
  split
  · exact (h.answer hc).2
  · exact h

theorem answer_of_answeredBy {f : (call : Call) → Except Failure call.Answer} {n : Nat}
    {ts : List Turn} (h : AnsweredBy (fun _ => f) n ts) : ∀ t ∈ ts, t.answer = f t.call := by
  intro t ht
  obtain ⟨before, after, rfl⟩ := List.append_of_mem ht
  exact h.at

/-- A command for the environment goes the same way at stores that are alike. -/
theorem Command.run_alikeFor {id : String} {store store' : Store} (h : store.AlikeFor id store')
    (c : Command) (hc : ∀ env, store.find? c.environment = some env → env.id = id)
    (trouble : Option Trouble) :
    c.plan.turns Visit.service ⟨store, trouble, []⟩ =
        c.plan.turns Visit.service ⟨store', trouble, []⟩ ∧
      (c.plan.run Visit.service ⟨store, trouble, []⟩).1 =
        (c.plan.run Visit.service ⟨store', trouble, []⟩).1 := by
  have ha : AnsweredBy (fun _ => store'.reply trouble) 0
      (c.plan.turns Visit.service ⟨store, trouble, []⟩) := by
    refine answeredBy_of_forall (fun t ht => ?_) 0
    rw [answer_of_answeredBy (c.turn_answer store trouble) t ht]
    refine h.reply trouble fun i hi => ?_
    obtain ⟨env, hf, rfl⟩ := environment_of_turn ht hi
    exact hc env hf
  obtain ⟨hturns, hrun⟩ := Plan.run_of_answers Visit.service c.plan _ 0 ha
  obtain ⟨hturns', hrun'⟩ :=
    Plan.run_of_answers Visit.service c.plan _ 0 (c.turn_answer store' trouble)
  exact ⟨hturns.trans hturns'.symm, hrun.trans hrun'.symm⟩

namespace Step

/-- Does the step name that environment, and is it more than a listing? -/
def concerns (store : Store) (env : Environment) (s : Step) : Bool :=
  match s.command with
  | .list .. => false
  | c => store.find? c.environment == some env

theorem concerns_congr {store store' : Store} (h : store.environments = store'.environments)
    (env : Environment) (s : Step) : s.concerns store env = s.concerns store' env := by
  unfold concerns
  simp only [Store.find?_environments, h]

/-- A step that the environment has nothing to do with leaves its devurls as they are. -/
theorem urls_after_of_apart {store : Store} {s : Step} {id : String}
    (h : ∀ env, store.find? s.command.environment = some env → env.id ≠ id) :
    (s.after store).urls id = store.urls id := by
  refine after_of_answers (p := fun store' => store'.urls id = store.urls id) rfl ?_
  intro t ht store' hstore'
  refine (store'.urls_answer_of_apart fun hid => ?_).trans hstore'
  obtain ⟨env, hf, he⟩ := Command.environment_of_turn ht hid
  exact h env hf he

theorem created_after {store : Store} {s : Step}
    (h : ∀ call ∈ (s.account store).calls, call.creates = false) :
    (s.after store).created = store.created := by
  rw [Step.account_eq] at h
  refine after_of_answers (p := fun store' => store'.created = store.created) rfl ?_
  intro t ht store' hstore'
  exact (store'.created_answer (h t.call (List.mem_map_of_mem ht))).trans hstore'

/-- A listing changes nothing. -/
theorem after_listing (store : Store) {s : Step} {name : String} {format : Format}
    (h : s.command = .list name format) : s.after store = store := by
  rw [Step.after_eq]
  refine Turn.effect_of_reads (fun t ht => ?_) store
  by_contra hm
  obtain ⟨env, urls, o, -, hch, -⟩ :=
    (s.command.course Visit.service ⟨store, s.trouble, []⟩).change_of_mem ht (by simpa using hm)
  rw [h] at hch
  cases hch

/-- A step that does not concern an environment, and creates nothing, is not seen there. -/
theorem alikeFor_after {store : Store} {env : Environment} {s : Step}
    (hids : (store.environments.map Environment.id).Nodup) (henv : env ∈ store.environments)
    (hs : s.concerns store env = false)
    (hc : ∀ call ∈ (s.account store).calls, call.creates = false) :
    store.AlikeFor env.id (s.after store) := by
  refine ⟨(s.environments_after store).symm, ?_, (created_after hc).symm⟩
  cases hcommand : s.command with
  | list name format => rw [after_listing store hcommand]
  | upsert _ | remove _ _ =>
    refine (urls_after_of_apart (Store.id_ne_of_find? hids henv ?_)).symm
    simp only [concerns, hcommand, beq_eq_false_iff_ne] at hs
    rwa [hcommand]

/-- A step that concerns an environment is seen alike where the stores are alike for it. -/
theorem alikeFor_of_concerns {store store' : Store} {env : Environment} {s : Step}
    (h : store.AlikeFor env.id store') (hs : s.concerns store env = true) :
    s.account store = s.account store' ∧
      (s.after store).AlikeFor env.id (s.after store') := by
  have hf : store.find? s.command.environment = some env := by
    unfold concerns at hs
    split at hs
    · cases hs
    · exact beq_iff_eq.mp hs
  have hid : ∀ found, store.find? s.command.environment = some found → found.id = env.id := by
    intro found hfound
    rw [Option.some.inj (hfound.symm.trans hf)]
  obtain ⟨hturns, hrun⟩ := s.command.run_alikeFor h hid s.trouble
  refine ⟨by rw [account_eq, account_eq, hturns, hrun], ?_⟩
  rw [Step.after_eq, Step.after_eq, ← hturns]
  have hts : ∀ t ∈ s.command.plan.turns Visit.service ⟨store, s.trouble, []⟩,
      ∀ i, t.call.environmentId? = some i → i = env.id := by
    intro t ht i hi
    obtain ⟨found, hfound, rfl⟩ := Command.environment_of_turn ht hi
    exact hid found hfound
  clear hturns hrun hf hid hs
  -- the turns are the same at both stores, so that one induction follows both
  generalize s.command.plan.turns Visit.service ⟨store, s.trouble, []⟩ = ts at hts
  induction ts generalizing store store' with
  | nil => exact h
  | cons t ts ih =>
    exact ih (Turn.alikeFor_effect h (hts t List.mem_cons_self)) fun u hu =>
      hts u (List.mem_cons_of_mem _ hu)

end Step

namespace Store

/-- The steps of a session that do not concern an environment can be left out, if they create
nothing. -/
theorem AlikeFor.session {store store' : Store} {env : Environment}
    (h : store.AlikeFor env.id store') (hids : (store.environments.map Environment.id).Nodup)
    (henv : env ∈ store.environments) (steps : List Step)
    (hc : ∀ e ∈ store.transcript steps, e.1.concerns store env = false →
      ∀ call ∈ e.2.calls, call.creates = false) :
    (store.transcript steps).filter (fun e => e.1.concerns store env) =
        store'.transcript (steps.filter fun s => s.concerns store env) ∧
      (store.after steps).AlikeFor env.id
        (store'.after (steps.filter fun s => s.concerns store env)) := by
  induction steps generalizing store store' with
  | nil => exact ⟨rfl, h⟩
  | cons s steps ih =>
    -- a step concerns an environment at the start if and only if it does where its turn comes
    have hsame : (s.after store).environments = store.environments := s.environments_after store
    have hconcerns (t : Step) : t.concerns (s.after store) env = t.concerns store env :=
      t.concerns_congr hsame env
    have ih (other : Store) := @ih (s.after store) other
    simp only [hconcerns, hsame] at ih
    have hc' : ∀ e ∈ (s.after store).transcript steps, e.1.concerns store env = false →
        ∀ call ∈ e.2.calls, call.creates = false :=
      fun e he => hc e (List.mem_cons_of_mem _ he)
    rw [Store.transcript, List.filter_cons, List.filter_cons]
    cases hs : s.concerns store env with
    | true =>
      obtain ⟨haccount, hafter⟩ := Step.alikeFor_of_concerns h hs
      obtain ⟨htranscript, hend⟩ := ih _ hafter hids henv hc'
      simp only [if_true]
      exact ⟨by rw [haccount, htranscript]; rfl, hend⟩
    | false =>
      have hstill := Step.alikeFor_after hids henv hs (hc _ List.mem_cons_self hs)
      exact ih _ (hstill.symm.trans h) hids henv hc'

/-- In every session the steps that name an environment, listings left out, go the same way and
leave its devurls the same if all other steps are left out, as long as those create nothing. A step
that names another environment never changes its devurls. -/
theorem no_interference (start : Store) (hids : (start.environments.map Environment.id).Nodup)
    (env : Environment) (henv : env ∈ start.environments) (steps : List Step) :
    ((∀ e ∈ start.transcript steps, e.1.concerns start env = false →
        ∀ call ∈ e.2.calls, call.creates = false) →
      (start.transcript steps).filter (fun e => e.1.concerns start env) =
          start.transcript (steps.filter fun s => s.concerns start env) ∧
        (start.after steps).urls env.id =
          (start.after (steps.filter fun s => s.concerns start env)).urls env.id) ∧
    ∀ s : Step, start.find? s.command.environment ≠ some env →
      (s.after (start.after steps)).urls env.id = (start.after steps).urls env.id := by
  constructor
  · intro hc
    obtain ⟨htranscript, hend⟩ := (AlikeFor.refl env.id start).session hids henv steps hc
    exact ⟨htranscript, hend.urls⟩
  · intro s hs
    refine Step.urls_after_of_apart ?_
    rw [start.find?_after]
    exact id_ne_of_find? hids henv hs

/-- Of six steps two concern the first of two environments of one name. -/
theorem two_of_six_steps :
    let env : Environment := ⟨"e1", "dev"⟩
    let start : Store := ⟨[⟨env, [⟨"a", "", 8080, none, .owner⟩]⟩,
      ⟨⟨"e2", "test"⟩, [⟨"a", "", 9090, none, .owner⟩]⟩, ⟨⟨"e3", "dev"⟩, []⟩], 0⟩
    let replacement : Step := ⟨.upsert ⟨"dev", "8080", "org", ""⟩, none, none⟩
    let creation : Step := ⟨.upsert ⟨"dev", "3000", "org", "web"⟩, none, some 5⟩
    let removal : Step := ⟨.remove "test" "9090", none, none⟩
    let steps : List Step := [removal, replacement,
      ⟨.list "dev" .json, none, none⟩, ⟨.upsert ⟨"nowhere", "80", "org", ""⟩, none, none⟩, creation,
      ⟨.upsert ⟨"test", "9090", "org", ""⟩, some ⟨.list, none⟩, none⟩]
    (start.transcript steps).filter (fun e => e.1.concerns start env) =
        start.transcript [replacement, creation] ∧
      (start.after steps).urls env.id = (start.after [replacement, creation]).urls env.id ∧
      (removal.after (start.after steps)).urls env.id = (start.after steps).urls env.id := by
  intro env start replacement creation removal steps
  have hkept : steps.filter (fun s => s.concerns start env) = [replacement, creation] := by
    have hs : steps.map (fun s => s.concerns start env) =
        [false, true, false, false, true, false] := by decide +kernel
    simp only [steps, List.map_cons, List.map_nil, List.cons.injEq] at hs
    simp only [steps, List.filter_cons, List.filter_nil, hs]
    rfl
  obtain ⟨hrest, hother⟩ := no_interference start (by decide) env (by decide) steps
  obtain ⟨htranscript, hurls⟩ := hrest (by decide +kernel)
  rw [hkept] at htranscript hurls
  exact ⟨htranscript, hurls, hother removal (by decide)⟩

end Store

end PortShare
