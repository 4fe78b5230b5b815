import PortShare.Proofs.PortCount
import PortShare.Proofs.Settled

/-! What a session calls for, and where. No step makes or loses an environment, so a name leads to
the same one in the whole session, and a step calls for changes to that one alone. -/

namespace PortShare

/-- The id of the environment that a call is addressed to. -/
def Call.environmentId? : Call → Option String
  | .resolve _ => none
  | .list id => some id
  | .create id _ => some id
  | .update id _ _ => some id
  | .delete id _ => some id

/-- Does the call ask for another devurl? -/
def Call.creates : Call → Bool
  | .create .. => true
  | _ => false

namespace Store

def environments (store : Store) : List Environment := store.holdings.map Holding.environment

theorem find?_environments (store : Store) (name : String) :
    store.find? name = store.environments.find? fun env => env.name == name :=
  find?_eq store name

theorem environments_change (store : Store) (id : String) (f : List DevUrl → List DevUrl) :
    (store.change id f).environments = store.environments :=
  map_changeFirst (f := fun h : Holding => { h with urls := f h.urls }) (fun _ => rfl)
    store.holdings

theorem environments_answer (store : Store) (call : Call) :
    (store.answer call).2.environments = store.environments := by
  cases call with
  | resolve name => rw [snd_answer_of_read store rfl]
  | list id => rfl
  | create id m => exact store.environments_change id fun urls => urls ++ [_]
  | update id url m => exact store.environments_change id (changeFirst _ m.apply)
  | delete id url => exact store.environments_change id (List.eraseP _)

theorem created_answer (store : Store) {call : Call} (h : call.creates = false) :
    (store.answer call).2.created = store.created := by
  cases call with
  | resolve name => rw [snd_answer_of_read store rfl]
  | list id => rfl
  | create id m => cases h
  | update id url m => rfl
  | delete id url => rfl

end Store

theorem Step.environments_after (s : Step) (store : Store) :
    (s.after store).environments = store.environments :=
  Step.after_of_answers (p := fun store' => store'.environments = store.environments) rfl
    fun t _ store' h => (store'.environments_answer t.call).trans h

theorem Store.environments_after (store : Store) (steps : List Step) :
    (store.after steps).environments = store.environments :=
  store.after_of_steps (p := fun store' => store'.environments = store.environments) rfl
    (fun s store' h => (s.environments_after store').trans h) steps

/-- A name leads to the same environment all through a session. -/
theorem Store.find?_after (store : Store) (steps : List Step) (name : String) :
    (store.after steps).find? name = store.find? name := by
  rw [find?_environments, find?_environments, store.environments_after]

theorem Change.environmentId? {c : Command} {env : Environment} {urls : List DevUrl} {call : Call}
    {o : Outcome} (h : Change c env urls call o) : call.environmentId? = some env.id := by
  cases h <;> rfl

/-- Whatever a command asks of an environment, it asks of the one that its name leads to. -/
theorem Command.environment_of_turn {c : Command} {store : Store} {trouble : Option Trouble}
    {t : Turn} (ht : t ∈ c.plan.turns Visit.service ⟨store, trouble, []⟩) {id : String}
    (hid : t.call.environmentId? = some id) :
    ∃ env, store.find? c.environment = some env ∧ env.id = id := by
  have ha := c.turn_answer store trouble
  have hc := c.course Visit.service ⟨store, trouble, []⟩
  generalize c.plan.turns Visit.service ⟨store, trouble, []⟩ = ts at ht ha hc
  generalize (c.plan.run Visit.service ⟨store, trouble, []⟩).1 = result at hc
  cases hc with
  | refused _ => cases ht
  | unresolved _ =>
    obtain rfl := List.mem_singleton.mp ht
    cases hid
  | @unlisted env e _ =>
    refine ⟨env, Store.find?_of_reply ha.1.symm, ?_⟩
    simp only [List.mem_cons, List.not_mem_nil, or_false] at ht
    rcases ht with rfl | rfl
    · cases hid
    · exact Option.some.inj hid
  | @listed env urls rest _ _ he =>
    refine ⟨env, Store.find?_of_reply ha.1.symm, ?_⟩
    simp only [List.mem_cons] at ht
    rcases ht with rfl | rfl | ht
    · cases hid
    · exact Option.some.inj hid
    · cases he with
      | shown _ | absent _ _ _ => cases ht
      | failed hch | changed hch =>
        obtain rfl := List.mem_singleton.mp ht
        exact Option.some.inj (hch.environmentId?.symm.trans hid)

/-- What is seen of a step follows from the turns of its command and the result of them. -/
theorem Step.account_eq (s : Step) (store : Store) :
    s.account store =
      ⟨(Command.report s.room (s.command.plan.run Visit.service ⟨store, s.trouble, []⟩).1).1,
        (Command.report s.room (s.command.plan.run Visit.service ⟨store, s.trouble, []⟩).1).2,
        (s.command.plan.turns Visit.service ⟨store, s.trouble, []⟩).map Turn.call⟩ := by
  have hcalls := s.command.plan.calls_run ⟨store, s.trouble, []⟩
  rw [List.nil_append] at hcalls
  simp only [account, run, Command.run_eq, hcalls]

/-- What is seen of a step is seen at the store that the steps before it have left. -/
theorem Store.exists_of_mem_transcript {store : Store} {steps : List Step}
    {e : Step × Step.Account} (h : e ∈ store.transcript steps) :
    ∃ before after, steps = before ++ e.1 :: after ∧ e.2 = e.1.account (store.after before) := by
  induction steps generalizing store with
  | nil => cases h
  | cons s steps ih =>
    rcases List.mem_cons.mp h with rfl | h
    · exact ⟨[], steps, rfl, rfl⟩
    · obtain ⟨before, after, hsplit, he⟩ := ih h
      exact ⟨s :: before, after, by rw [hsplit]; rfl, he⟩

end PortShare
