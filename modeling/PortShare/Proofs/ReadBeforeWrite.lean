import PortShare.Proofs.Visit

/-! A command reads before it writes. Whatever it is answered, it looks its environment up, lists it
and makes at most one change, and a call that fails is its last. -/

namespace PortShare

/-- What a command may ask for when its calls get these answers; `result` is what it ends with. -/
structure ReadsBeforeWriting (c : Command) (f : Answers) (result : Except Failure Completion)
    (calls : List Call) : Prop where
  order : ∃ env change, calls <+: [.resolve c.environment, .list env.id, change] ∧
    change.isMutation = true ∧ ∀ found, f 0 (.resolve c.environment) = .ok found → found = env
  refused : ∀ e, c.verdict = .error e → calls = [] ∧ result = .error e
  failing : ∀ before call after e, calls = before ++ call :: after →
    f before.length call = .error e → after = [] ∧ result = .error e
  decides : (∃ change ∈ calls, change.isMutation = true) ↔ c.verdict = .ok () ∧ ∃ env urls,
    f 0 (.resolve c.environment) = .ok env ∧ f 1 (.list env.id) = .ok urls ∧ c.Applies urls
  /-- The change follows from what was read, and its outcome is the result once it is made. -/
  changes : ∀ change ∈ calls, change.isMutation = true → ∃ env urls o,
    f 0 (.resolve c.environment) = .ok env ∧ f 1 (.list env.id) = .ok urls ∧
    Change c env urls change o ∧ ∀ a, f 2 change = .ok a → result = .ok o.completion
  shown : ∀ name format env urls, c = .list name format → f 0 (.resolve name) = .ok env →
    f 1 (.list env.id) = .ok urls → result = .ok ⟨none, Command.list.text name format urls⟩
  absent : ∀ name typed port env urls, c = .remove name typed → readPort typed = .ok port →
    f 0 (.resolve name) = .ok env → f 1 (.list env.id) = .ok urls →
    (∀ u ∈ urls, u.port ≠ port) → result = .error (.notFound name port)

namespace Course

variable {c : Command} {f : Answers} {ts : List Turn} {result : Except Failure Completion}

theorem order (h : Course c ts result) (ha : AnsweredBy f 0 ts) :
    ∃ env change, ts.map Turn.call <+: [.resolve c.environment, .list env.id, change] ∧
      change.isMutation = true ∧ ∀ found, f 0 (.resolve c.environment) = .ok found →
        found = env := by
  have known {env found : Environment} (hr : .ok env = f 0 (.resolve c.environment))
      (hf : f 0 (.resolve c.environment) = .ok found) : found = env :=
    (Except.ok.inj (hr.trans hf)).symm
  -- any change completes the list where the calls end before it
  cases h with
  | refused _ | unresolved _ =>
    obtain ⟨env, he⟩ : ∃ env, ∀ found,
        f 0 (.resolve c.environment) = .ok found → found = env := by
      cases hr : f 0 (.resolve c.environment) with
      | error e => exact ⟨⟨"", ""⟩, nofun⟩
      | ok env => exact ⟨env, fun found hf => (Except.ok.inj hf).symm⟩
    refine ⟨env, .delete env.id "", ?_, rfl, he⟩
    simp
  | @unlisted env e _ =>
    exact ⟨env, .delete env.id "", List.prefix_append [_, _] _, rfl, fun _ => known ha.1⟩
  | @listed env urls ts _ _ he =>
    have hk : ∀ found, f 0 (.resolve c.environment) = .ok found → found = env :=
      fun _ => known ha.1
    cases he with
    | shown _ | absent _ _ _ =>
      exact ⟨env, .delete env.id "", List.prefix_append [_, _] _, rfl, hk⟩
    | failed hc | changed hc => exact ⟨env, _, List.prefix_rfl, hc.isMutation, hk⟩

theorem list_of_second (h : Course c ts result) (ha : AnsweredBy f 0 ts) {call : Call}
    (hm : (ts.map Turn.call)[1]? = some call) :
    ∃ env, f 0 (.resolve c.environment) = .ok env ∧ call = .list env.id := by
  cases h with
  | refused _ | unresolved _ => simp at hm
  | unlisted _ | listed _ _ => exact ⟨_, ha.1.symm, (Option.some.inj hm).symm⟩

theorem refused_of_verdict (h : Course c ts result) {e : Failure} (he : c.verdict = .error e) :
    ts.map Turn.call = [] ∧ result = .error e := by
  cases h with
  | refused h =>
    rw [h] at he
    cases he
    exact ⟨rfl, rfl⟩
  | unresolved h | unlisted h | listed h _ =>
    rw [h] at he
    cases he

theorem changes (h : Course c ts result) (ha : AnsweredBy f 0 ts) :
    ∀ change ∈ ts.map Turn.call, change.isMutation = true → ∃ env urls o,
      f 0 (.resolve c.environment) = .ok env ∧ f 1 (.list env.id) = .ok urls ∧
      Change c env urls change o ∧ ∀ a, f 2 change = .ok a → result = .ok o.completion := by
  intro change hm hw
  obtain ⟨t, ht, rfl⟩ := List.mem_map.mp hm
  obtain ⟨env, urls, o, rfl, hc, hr⟩ := h.change_of_mem ht hw
  obtain ⟨h₀, h₁, h₂, -⟩ := ha
  exact ⟨env, urls, o, h₀.symm, h₁.symm, hc, fun a hok => hr a (h₂.trans hok)⟩

/-- Once both reads succeed, the course goes on to an ending. -/
theorem ending_of_reads (h : Course c ts result) (ha : AnsweredBy f 0 ts)
    {env : Environment} {urls : List DevUrl} (hverdict : c.verdict = .ok ())
    (hr : f 0 (.resolve c.environment) = .ok env) (hl : f 1 (.list env.id) = .ok urls) :
    ∃ rest, ts = ⟨.resolve c.environment, .ok env⟩ :: ⟨.list env.id, .ok urls⟩ :: rest ∧
      Ending c env urls rest result := by
  cases h with
  | refused he =>
    rw [hverdict] at he
    cases he
  | unresolved _ => cases ha.1.trans hr
  | unlisted _ =>
    obtain ⟨h₀, h₁, -⟩ := ha
    cases h₀.trans hr
    cases h₁.trans hl
  | listed _ hend =>
    obtain ⟨h₀, h₁, -⟩ := ha
    cases h₀.trans hr
    cases h₁.trans hl
    exact ⟨_, rfl, hend⟩

/-- A change that is called for is the third turn. -/
theorem turns_of_change (h : Course c ts result) (ha : AnsweredBy f 0 ts)
    {env : Environment} {urls : List DevUrl} {call : Call} {o : Outcome}
    (hr : f 0 (.resolve c.environment) = .ok env) (hl : f 1 (.list env.id) = .ok urls)
    (hc : Change c env urls call o) :
    ts = [⟨.resolve c.environment, .ok env⟩, ⟨.list env.id, .ok urls⟩, ⟨call, f 2 call⟩] ∧
      ∀ a, f 2 call = .ok a → result = .ok o.completion := by
  obtain ⟨hverdict, happ⟩ := (c.exists_change_iff env urls).mp ⟨call, o, hc⟩
  obtain ⟨rest, rfl, hend⟩ := h.ending_of_reads ha hverdict hr hl
  cases hend with
  | shown hs =>
    subst hs
    cases happ
  | absent hs hp hn =>
    subst hs
    obtain ⟨port, hp', u, hu, hup⟩ := happ
    obtain rfl := Except.ok.inj (hp.symm.trans hp')
    exact absurd hup (hn u hu)
  | failed hc' =>
    obtain ⟨rfl, rfl⟩ := hc.unique hc'
    rw [← ha.2.2.1]
    exact ⟨rfl, nofun⟩
  | changed hc' =>
    obtain ⟨rfl, rfl⟩ := hc.unique hc'
    rw [← ha.2.2.1]
    exact ⟨rfl, fun _ _ => rfl⟩

theorem decides (h : Course c ts result) (ha : AnsweredBy f 0 ts) :
    (∃ change ∈ ts.map Turn.call, change.isMutation = true) ↔ c.verdict = .ok () ∧ ∃ env urls,
      f 0 (.resolve c.environment) = .ok env ∧ f 1 (.list env.id) = .ok urls ∧
      c.Applies urls := by
  constructor
  · rintro ⟨change, hm, hw⟩
    obtain ⟨env, urls, o, hr, hl, hc, -⟩ := h.changes ha change hm hw
    obtain ⟨hverdict, happ⟩ := (c.exists_change_iff env urls).mp ⟨_, o, hc⟩
    exact ⟨hverdict, env, urls, hr, hl, happ⟩
  · rintro ⟨hverdict, env, urls, hr, hl, happ⟩
    obtain ⟨call, o, hc⟩ := (c.exists_change_iff env urls).mpr ⟨hverdict, happ⟩
    obtain ⟨rfl, -⟩ := h.turns_of_change ha hr hl hc
    exact ⟨call, by simp, hc.isMutation⟩

theorem shown (h : Course c ts result) (ha : AnsweredBy f 0 ts) {name : String}
    {format : Format} {env : Environment} {urls : List DevUrl} (hc : c = .list name format)
    (hr : f 0 (.resolve name) = .ok env) (hl : f 1 (.list env.id) = .ok urls) :
    result = .ok ⟨none, Command.list.text name format urls⟩ := by
  subst hc
  obtain ⟨rest, rfl, hend⟩ := h.ending_of_reads ha rfl hr hl
  cases hend with
  | shown hc =>
    cases hc
    rfl
  | absent hc _ _ => cases hc
  | failed hch => cases hch
  | changed hch => cases hch

theorem not_found (h : Course c ts result) (ha : AnsweredBy f 0 ts)
    {name typed : String} {port : UInt16} {env : Environment} {urls : List DevUrl}
    (hc : c = .remove name typed) (hp : readPort typed = .ok port)
    (hr : f 0 (.resolve name) = .ok env) (hl : f 1 (.list env.id) = .ok urls)
    (hn : ∀ u ∈ urls, u.port ≠ port) : result = .error (.notFound name port) := by
  subst hc
  have hverdict : (Command.remove name typed).verdict = .ok () := by
    simp [Command.verdict, checkPort_eq_ok_iff.mpr hp, Except.map]
  obtain ⟨rest, rfl, hend⟩ := h.ending_of_reads ha hverdict hr hl
  have unmet {call : Call} {o : Outcome} (hch : Change (.remove name typed) env urls call o) :
      False := by
    obtain ⟨-, port', hp', u, hu, hup⟩ :=
      ((Command.remove name typed).exists_change_iff env urls).mp ⟨call, o, hch⟩
    obtain rfl := Except.ok.inj (hp.symm.trans hp')
    exact hn u hu hup
  cases hend with
  | shown hc => cases hc
  | absent hc hp' _ =>
    cases hc
    obtain rfl := Except.ok.inj (hp.symm.trans hp')
    rfl
  | failed hch => exact (unmet hch).elim
  | changed hch => exact (unmet hch).elim

end Course

/-- Every command reads before it writes, at whichever service gives the answers. -/
theorem Command.protocol {σ : Type} (c : Command) {f : Answers} (service : Service σ) (s : σ)
    (ha : AnsweredBy f 0 (c.plan.turns service s)) :
    ReadsBeforeWriting c f (c.plan.run service s).1 ((c.plan.turns service s).map Turn.call) := by
  have h := c.course service s
  exact {
    order := h.order ha
    refused := fun e he => h.refused_of_verdict he
    failing := by
      intro before call after e hsplit he
      obtain ⟨us, t, vs, hts, rfl, rfl, rfl⟩ := exists_turn_of_call hsplit
      rw [List.length_map] at he
      rw [hts] at ha
      have hte := ha.at
      rw [Nat.zero_add, he] at hte
      obtain ⟨rfl, hres⟩ := Plan.failed_turn_last service _ _ us t vs e hts hte
      exact ⟨rfl, hres⟩
    decides := h.decides ha
    changes := h.changes ha
    shown := fun name format env urls hc hr hl => h.shown ha hc hr hl
    absent := fun name typed port env urls hc hp hr hl hn => h.not_found ha hc hp hr hl hn }

/-- Every command reads before it writes, at every store and in every trouble. -/
theorem Command.reads_before_writing (c : Command) (store : Store) (trouble : Option Trouble) :
    ReadsBeforeWriting c (fun _ => store.reply trouble)
      (c.plan.run Visit.service ⟨store, trouble, []⟩).1
      (c.plan.run Visit.service ⟨store, trouble, []⟩).2.calls := by
  rw [Plan.calls_run, List.nil_append]
  exact c.protocol Visit.service _ (c.turn_answer store trouble)

end PortShare
