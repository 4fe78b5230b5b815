import PortShare.Plan

/-! The turns of a run: the calls that a plan makes, each with its answer. A turn that fails is the
last one, and the answers decide the whole run, whichever service gives them. -/

namespace PortShare

/-- A call and what was answered. -/
structure Turn where
  call : Call
  answer : Except Failure call.Answer

namespace Plan

variable {α β σ : Type}

def turns (service : Service σ) : Plan α → σ → List Turn
  | .done _, _ => []
  | .fail _, _ => []
  | .note entry rest, s => rest.turns service (service.note entry s)
  | .ask call next, s =>
    match service.answer call s with
    | (.error e, _) => [⟨call, .error e⟩]
    | (.ok answer, s) => ⟨call, .ok answer⟩ :: (next answer).turns service s

section ask

variable {service : Service σ} {call : Call} {next : call.Answer → Plan α} {s s' : σ}

theorem turns_note (entry : Log.Entry) (rest : Plan α) (s : σ) :
    (Plan.note entry rest).turns service s = rest.turns service (service.note entry s) := rfl

theorem run_note (entry : Log.Entry) (rest : Plan α) (s : σ) :
    (Plan.note entry rest).run service s = rest.run service (service.note entry s) := rfl

theorem turns_ask_error {e : Failure} (h : service.answer call s = (.error e, s')) :
    (Plan.ask call next).turns service s = [⟨call, .error e⟩] := by
  simp only [turns, h]

theorem turns_ask_ok {a : call.Answer} (h : service.answer call s = (.ok a, s')) :
    (Plan.ask call next).turns service s = ⟨call, .ok a⟩ :: (next a).turns service s' := by
  simp only [turns, h]

theorem run_ask_error {e : Failure} (h : service.answer call s = (.error e, s')) :
    (Plan.ask call next).run service s = (.error e, s') := by
  simp only [run, h]

theorem run_ask_ok {a : call.Answer} (h : service.answer call s = (.ok a, s')) :
    (Plan.ask call next).run service s = (next a).run service s' := by
  simp only [run, h]

variable (service call next s) in
/-- A plan that asks has a turn for its call. -/
theorem exists_turn_of_ask : ∃ turn ∈ (Plan.ask call next).turns service s, turn.call = call := by
  rcases h : service.answer call s with ⟨e | a, s'⟩
  · rw [turns_ask_error h]
    exact ⟨_, List.mem_singleton_self _, rfl⟩
  · rw [turns_ask_ok h]
    exact ⟨_, List.mem_cons_self, rfl⟩

end ask

/-- If every call that is made where `I` holds is a turn that is `P`, and keeps `I`, then so are all
turns of a run that begins where `I` holds, and `I` holds at its end. -/
theorem invariant {service : Service σ} {I : σ → Prop} {P : Turn → Prop}
    (hnote : ∀ entry s, I s → I (service.note entry s))
    (hanswer : ∀ call s, I s → P ⟨call, (service.answer call s).1⟩ ∧ I (service.answer call s).2)
    (p : Plan α) {s : σ} (hs : I s) :
    (∀ turn ∈ p.turns service s, P turn) ∧ I (p.run service s).2 := by
  induction p generalizing s with
  | done a => exact ⟨List.forall_mem_nil _, hs⟩
  | fail e => exact ⟨List.forall_mem_nil _, hs⟩
  | note entry rest ih => exact ih (hnote entry s hs)
  | ask call next ih =>
    obtain ⟨hturn, hs'⟩ := hanswer call s hs
    rcases h : service.answer call s with ⟨e | a, s'⟩ <;> rw [h] at hturn hs'
    · rw [turns_ask_error h, run_ask_error h]
      exact ⟨List.forall_mem_singleton.mpr hturn, hs'⟩
    · rw [turns_ask_ok h, run_ask_ok h]
      exact ⟨List.forall_mem_cons.mpr ⟨hturn, (ih a hs').1⟩, (ih a hs').2⟩

/-- The first failing call is the last one, and its failure is the result. -/
theorem failed_turn_last (service : Service σ) (p : Plan α) (s : σ) :
    ∀ before t after e, p.turns service s = before ++ t :: after → t.answer = .error e →
      after = [] ∧ (p.run service s).1 = .error e := by
  induction p generalizing s with
  | done a => intro before t after e h; simp [turns] at h
  | fail e => intro before t after e h; simp [turns] at h
  | note entry rest ih => exact ih _
  | ask call next ih =>
    intro before t after e ht he
    rcases h : service.answer call s with ⟨_ | a, s'⟩
    · rw [turns_ask_error h] at ht
      rw [run_ask_error h]
      cases before with
      | nil =>
        obtain ⟨rfl, rfl⟩ := List.cons.inj ht
        simp only [Except.error.injEq] at he
        exact ⟨rfl, by rw [he]⟩
      | cons u us => simp at ht
    · rw [turns_ask_ok h] at ht
      rw [run_ask_ok h]
      cases before with
      | nil =>
        obtain ⟨rfl, -⟩ := List.cons.inj ht
        cases he
      | cons u us => exact ih a s' us t after e (List.cons.inj ht).2 he

end Plan

/-- A call of a run is the call of one of its turns, in the same place. -/
theorem exists_turn_of_call {ts : List Turn} {before after : List Call} {call : Call}
    (h : ts.map Turn.call = before ++ call :: after) :
    ∃ us t vs, ts = us ++ t :: vs ∧ us.map Turn.call = before ∧ t.call = call ∧
      vs.map Turn.call = after := by
  obtain ⟨us, rest, hts, hus, hrest⟩ := List.map_eq_append_iff.mp h
  obtain ⟨t, vs, rfl, ht, hvs⟩ := List.map_eq_cons_iff.mp hrest
  exact ⟨us, t, vs, hts, hus, ht, hvs⟩

/-- What each call is answered, by its place among the calls of a run. -/
abbrev Answers := Nat → (call : Call) → Except Failure call.Answer

/-- The turns from the `n`th on have these answers. -/
def AnsweredBy (f : Answers) : Nat → List Turn → Prop
  | _, [] => True
  | n, t :: ts => t.answer = f n t.call ∧ AnsweredBy f (n + 1) ts

theorem AnsweredBy.at {f : Answers} {n : Nat} {before after : List Turn} {t : Turn}
    (h : AnsweredBy f n (before ++ t :: after)) : t.answer = f (n + before.length) t.call := by
  induction before generalizing n with
  | nil => exact h.1
  | cons u us ih =>
    have := ih h.2
    rwa [Nat.add_right_comm] at this

theorem answeredBy_of_forall {f : (call : Call) → Except Failure call.Answer} {ts : List Turn}
    (h : ∀ t ∈ ts, t.answer = f t.call) (n : Nat) : AnsweredBy (fun _ => f) n ts := by
  induction ts generalizing n with
  | nil => trivial
  | cons t ts ih => exact ⟨h t (by simp), ih (fun u hu => h u (by simp [hu])) (n + 1)⟩

namespace Plan

variable {α σ : Type}

/-- The service that has the answers ready and counts the calls. -/
def oracle (f : Answers) : Service Nat := ⟨fun call n => (f n call, n + 1), fun _ n => n⟩

/-- The answers decide the turns of a run and its result, whatever service gives them. -/
theorem run_of_answers {f : Answers} (service : Service σ) (p : Plan α) (s : σ) :
    ∀ n, AnsweredBy f n (p.turns service s) →
      p.turns service s = p.turns (oracle f) n ∧
        (p.run service s).1 = (p.run (oracle f) n).1 := by
  induction p generalizing s with
  | done a => exact fun n _ => ⟨rfl, rfl⟩
  | fail e => exact fun n _ => ⟨rfl, rfl⟩
  | note entry rest ih => exact ih _
  | ask call next ih =>
    intro n hn
    rcases h : service.answer call s with ⟨e | a, s'⟩
    · rw [turns_ask_error h] at hn
      have ho : (oracle f).answer call n = (.error e, n + 1) := Prod.ext hn.1.symm rfl
      rw [turns_ask_error h, run_ask_error h, turns_ask_error ho, run_ask_error ho]
      exact ⟨rfl, rfl⟩
    · rw [turns_ask_ok h] at hn
      have ho : (oracle f).answer call n = (.ok a, n + 1) := Prod.ext hn.1.symm rfl
      obtain ⟨ht, hr⟩ := ih a s' (n + 1) hn.2
      rw [turns_ask_ok h, run_ask_ok h, turns_ask_ok ho, run_ask_ok ho, ← ht]
      exact ⟨rfl, hr⟩

/-- A run with other answers goes the same way until one of them is a failure. -/
theorem run_until_failure {f : Answers} (service : Service σ) (p : Plan α) (s : σ) :
    ∀ n before t after e, p.turns service s = before ++ t :: after → AnsweredBy f n before →
      f (n + before.length) t.call = .error e →
      p.turns (oracle f) n = before ++ [⟨t.call, .error e⟩] ∧
        (p.run (oracle f) n).1 = .error e := by
  induction p generalizing s with
  | done a => intro n before t after e h; simp [turns] at h
  | fail e => intro n before t after e h; simp [turns] at h
  | note entry rest ih => exact ih _
  | ask call next ih =>
    intro n before t after e ht hb he
    rcases h : service.answer call s with ⟨e' | a, s'⟩
    · rw [turns_ask_error h] at ht
      cases before with
      | nil =>
        obtain ⟨rfl, -⟩ := List.cons.inj ht
        have ho : (oracle f).answer call n = (.error e, n + 1) := Prod.ext he rfl
        rw [turns_ask_error ho, run_ask_error ho]
        exact ⟨rfl, rfl⟩
      | cons u us => simp at ht
    · rw [turns_ask_ok h] at ht
      cases before with
      | nil =>
        obtain ⟨rfl, -⟩ := List.cons.inj ht
        have ho : (oracle f).answer call n = (.error e, n + 1) := Prod.ext he rfl
        rw [turns_ask_error ho, run_ask_error ho]
        exact ⟨rfl, rfl⟩
      | cons u us =>
        obtain ⟨rfl, htail⟩ := List.cons.inj ht
        have ho : (oracle f).answer call n = (.ok a, n + 1) := Prod.ext hb.1.symm rfl
        rw [List.length_cons, ← Nat.add_assoc, Nat.add_right_comm] at he
        obtain ⟨hts, hr⟩ := ih a s' (n + 1) us t after e htail hb.2 he
        rw [turns_ask_ok ho, run_ask_ok ho, hts]
        exact ⟨rfl, hr⟩

end Plan

end PortShare
