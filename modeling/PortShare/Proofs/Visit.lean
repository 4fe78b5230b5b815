import PortShare.Proofs.Course
import PortShare.Store

/-! Runs at a store: the calls on record are the run's turns, each answered by the store as it was
at the start, and the store changes by the last of them alone. -/

namespace PortShare

/-- The answer that a call gets from a store, where a call may meet trouble. -/
def Store.reply (store : Store) (trouble : Option Trouble) (call : Call) :
    Except Failure call.Answer :=
  match trouble with
  | some t => if t.stage = call.stage then .error (t.failure call) else (store.answer call).1
  | none => (store.answer call).1

/-- What a turn leaves of a store. -/
def Turn.effect (store : Store) (t : Turn) : Store :=
  match t.answer with
  | .ok _ => (store.answer t.call).2
  | .error _ => store

theorem Store.snd_answer_of_error {store : Store} {call : Call} {e : Failure}
    (h : (store.answer call).1 = .error e) : (store.answer call).2 = store := by
  cases call with
  | resolve name =>
    simp only [Store.answer] at h ⊢
    split <;> rfl
  | list id => cases h
  | create id m => cases h
  | update id url m => cases h
  | delete id url => cases h

theorem Store.snd_answer_of_read (store : Store) {call : Call} (h : call.isMutation = false) :
    (store.answer call).2 = store := by
  cases call with
  | resolve name =>
    simp only [Store.answer]
    split <;> rfl
  | list id => rfl
  | create id m => cases h
  | update id url m => cases h
  | delete id url => cases h

theorem Store.answer_of_isMutation {call : Call} (h : call.isMutation = true) (store : Store) :
    ∃ a, (store.answer call).1 = .ok a := by
  cases call with
  | resolve name => cases h
  | list id => cases h
  | create id m => exact ⟨(), rfl⟩
  | update id url m => exact ⟨(), rfl⟩
  | delete id url => exact ⟨(), rfl⟩

theorem Turn.effect_answer (store : Store) (call : Call) :
    Turn.effect store ⟨call, (store.answer call).1⟩ = (store.answer call).2 := by
  unfold Turn.effect
  cases h : (store.answer call).1 with
  | ok a => rfl
  | error e => exact (Store.snd_answer_of_error h).symm

theorem Turn.effect_of_read {t : Turn} (store : Store) (h : t.call.isMutation = false) :
    t.effect store = store := by
  unfold Turn.effect
  split
  · exact Store.snd_answer_of_read store h
  · rfl

theorem Turn.effect_of_still {ts : List Turn} {store : Store}
    (h : ∀ t ∈ ts, t.effect store = store) : ts.foldl Turn.effect store = store := by
  induction ts with
  | nil => rfl
  | cons t ts ih =>
    rw [List.foldl_cons, h t (by simp)]
    exact ih fun u hu => h u (by simp [hu])

theorem Visit.answer_eq (call : Call) (v : Visit) :
    Visit.answer call v =
      (v.store.reply v.trouble call,
        { store := Turn.effect v.store ⟨call, v.store.reply v.trouble call⟩
          trouble := v.trouble
          calls := v.calls ++ [call] }) := by
  obtain ⟨store, trouble, calls⟩ := v
  cases trouble with
  | none => simp only [Visit.answer, Store.reply, Turn.effect_answer]
  | some t =>
    by_cases h : t.stage = call.stage
    · simp only [Visit.answer, Store.reply, h, if_true, Turn.effect]
    · simp only [Visit.answer, Store.reply, h, if_false, Turn.effect_answer]

namespace Plan

variable {α : Type}

/-- The calls on record are those of the run's turns. -/
theorem calls_run (p : Plan α) (v : Visit) :
    (p.run Visit.service v).2.calls = v.calls ++ (p.turns Visit.service v).map Turn.call := by
  induction p generalizing v with
  | done a => simp [run, turns]
  | fail e => simp [run, turns]
  | note entry rest ih => exact ih v
  | ask call next ih =>
    have h : Visit.service.answer call v = _ := Visit.answer_eq call v
    cases hr : v.store.reply v.trouble call with
    | error e =>
      rw [hr] at h
      rw [turns_ask_error h, run_ask_error h]
      rfl
    | ok a =>
      rw [hr] at h
      rw [turns_ask_ok h, run_ask_ok h, ih]
      simp

/-- The store at the end is what the turns leave of it. -/
theorem store_run (p : Plan α) (v : Visit) :
    (p.run Visit.service v).2.store = (p.turns Visit.service v).foldl Turn.effect v.store := by
  induction p generalizing v with
  | done a => rfl
  | fail e => rfl
  | note entry rest ih => exact ih v
  | ask call next ih =>
    have h : Visit.service.answer call v = _ := Visit.answer_eq call v
    cases hr : v.store.reply v.trouble call with
    | error e =>
      rw [hr] at h
      rw [turns_ask_error h, run_ask_error h]
      rfl
    | ok a =>
      rw [hr] at h
      rw [turns_ask_ok h, run_ask_ok h, ih]
      rfl

/-- As long as nothing has been changed, the store answers as it did at the start. -/
theorem answer_of_reads (p : Plan α) (v : Visit) :
    ∀ before t after, p.turns Visit.service v = before ++ t :: after →
      (∀ u ∈ before, u.call.isMutation = false) →
      t.answer = v.store.reply v.trouble t.call := by
  induction p generalizing v with
  | done a => intro before t after h; simp [turns] at h
  | fail e => intro before t after h; simp [turns] at h
  | note entry rest ih => exact ih v
  | ask call next ih =>
    intro before t after ht hb
    have h : Visit.service.answer call v = _ := Visit.answer_eq call v
    cases hr : v.store.reply v.trouble call with
    | error e =>
      rw [hr] at h
      rw [turns_ask_error h] at ht
      cases before with
      | nil =>
        obtain ⟨rfl, -⟩ := List.cons.inj ht
        exact hr.symm
      | cons u us => simp at ht
    | ok a =>
      rw [hr] at h
      rw [turns_ask_ok h] at ht
      cases before with
      | nil =>
        obtain ⟨rfl, -⟩ := List.cons.inj ht
        exact hr.symm
      | cons u us =>
        obtain ⟨rfl, ht'⟩ := List.cons.inj ht
        have hs : Turn.effect v.store ⟨call, .ok a⟩ = v.store :=
          Store.snd_answer_of_read v.store (hb _ (by simp))
        rw [hs] at ht'
        exact ih a ⟨v.store, v.trouble, v.calls ++ [call]⟩ us t after ht' fun u hu =>
          hb u (by simp [hu])

end Plan

theorem Course.reads {c : Command} {ts : List Turn} {result : Except Failure Completion}
    (h : Course c ts result) : ∀ t ∈ ts.dropLast, t.call.isMutation = false := by
  cases h with
  | refused _ | unresolved _ | unlisted _ => simp [Call.isMutation]
  | listed _ he => cases he <;> simp [Call.isMutation]

/-- Every turn of a command at a store is answered by the store as it was at the start. -/
theorem Command.turn_answer (c : Command) (store : Store) (trouble : Option Trouble) :
    AnsweredBy (fun _ => store.reply trouble) 0
      (c.plan.turns Visit.service ⟨store, trouble, []⟩) := by
  refine answeredBy_of_forall (fun t ht => ?_) 0
  obtain ⟨before, after, h⟩ := List.append_of_mem ht
  refine Plan.answer_of_reads _ ⟨store, trouble, []⟩ before t after h fun u hu => ?_
  refine (c.course Visit.service ⟨store, trouble, []⟩).reads u ?_
  rw [h, List.dropLast_append_of_ne_nil (by simp)]
  exact List.mem_append_left _ hu

end PortShare
