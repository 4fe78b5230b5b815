import PortShare.Proofs.Transcript

/-! Commands for a port that meet no trouble: the calls that they make, what they end with and the
store that they leave. All of it follows from the first devurl on the port. -/

namespace PortShare

/-- Is the step in order, for that port, and free of trouble? -/
structure Step.IsFor (s : Step) (port : UInt16) : Prop where
  port : s.command.port? = some port
  trouble : s.trouble = none

theorem Step.IsFor.of_upsert {s : Step} {port : UInt16} (h : s.IsFor port) {r : Request}
    (hc : s.command = .upsert r) : readPort r.port = .ok port ∧
      ∃ access, AccessLevel.ofName? r.access = some access := by
  have hp := h.port
  rw [hc, Command.port?] at hp
  cases hr : r.check with
  | error e => simp [hr, Except.toOption] at hp
  | ok a =>
    obtain ⟨port', access, hport, haccess, -, rfl⟩ := check_eq_ok_iff.mp hr
    obtain rfl : port' = port := by simpa [hr, Except.toOption] using hp
    exact ⟨hport, access, haccess⟩

/-- Does the step report that outcome, as far as there is room for it? -/
def Step.Reports (s : Step) (store : Store) (o : Outcome) : Prop :=
  (s.account store).result = (deliver s.room o.line).1.map (fun _ => some o) ∧
    (s.account store).output = (deliver s.room o.line).2

/-- How a command for a port proceeds at a store that gives it no trouble: its calls and its
result. -/
inductive Command.Proceeds (c : Command) (store : Store) :
    List Call → Except Failure Completion → Prop where
  | unresolved : store.find? c.environment = none →
      Proceeds c store [.resolve c.environment] (.error (.environmentNotFound c.environment))
  | absent {name typed : String} {port : UInt16} {env : Environment} : c = .remove name typed →
      readPort typed = .ok port → store.find? c.environment = some env →
      (∀ u ∈ store.urls env.id, u.port ≠ port) →
      Proceeds c store [.resolve c.environment, .list env.id] (.error (.notFound name port))
  | changed {env : Environment} {call : Call} {o : Outcome} :
      store.find? c.environment = some env → Change c env (store.urls env.id) call o →
      Proceeds c store [.resolve c.environment, .list env.id, call] (.ok o.completion)

theorem Command.verdict_of_port? {c : Command} {port : UInt16} (h : c.port? = some port) :
    c.verdict = .ok () := by
  cases c with
  | list name format => cases h
  | upsert r =>
    cases hc : r.check with
    | error e => simp [port?, hc, Except.toOption] at h
    | ok a => simp [verdict, hc, Except.map]
  | remove name typed =>
    cases hc : checkPort typed with
    | error e => simp [port?, hc, Except.toOption] at h
    | ok port => simp [verdict, hc, Except.map]

/-- The store behind some calls. -/
def Store.behind (store : Store) (calls : List Call) : Store :=
  calls.foldl (fun store call => (store.answer call).2) store

theorem Store.behind_cons_of_read (store : Store) {call : Call} (h : call.isMutation = false)
    (calls : List Call) : store.behind (call :: calls) = store.behind calls := by
  rw [behind, List.foldl_cons, store.snd_answer_of_read h]
  rfl

theorem Store.behind_listing (store : Store) (name id : String) :
    store.behind [.resolve name, .list id] = store := by
  rw [store.behind_cons_of_read rfl, store.behind_cons_of_read rfl]
  rfl

theorem Store.behind_change (store : Store) (name id : String) (call : Call) :
    store.behind [.resolve name, .list id, call] = (store.answer call).2 := by
  rw [store.behind_cons_of_read rfl, store.behind_cons_of_read rfl]
  rfl

/-- Where each turn has the answer of the store, and those before the last only read, the turns
leave what the calls leave. -/
theorem Store.foldl_effect (store : Store) {n : Nat} {ts : List Turn}
    (ha : AnsweredBy (fun _ => store.reply none) n ts)
    (hr : ∀ t ∈ ts.dropLast, t.call.isMutation = false) :
    ts.foldl Turn.effect store = store.behind (ts.map Turn.call) := by
  induction ts generalizing n with
  | nil => rfl
  | cons t ts ih =>
    obtain ⟨call, answer⟩ := t
    cases ts with
    | nil =>
      obtain rfl : answer = (store.answer call).1 := ha.1
      exact Turn.effect_answer store call
    | cons u us =>
      have hread : call.isMutation = false := hr _ List.mem_cons_self
      have hrest := ih ha.2 fun t ht => hr t (List.mem_cons_of_mem _ ht)
      rw [List.foldl_cons, Turn.effect_of_read store hread, hrest]
      exact (store.behind_cons_of_read hread _).symm

/-- Every step for a port that meets no trouble proceeds in one of the three ways. -/
theorem Step.proceeds {s : Step} {port : UInt16} (h : s.IsFor port) (store : Store) :
    ∃ calls result, s.command.Proceeds store calls result ∧
      s.account store =
        ⟨(Command.report s.room result).1, (Command.report s.room result).2, calls⟩ ∧
      s.after store = store.behind calls := by
  have hverdict := Command.verdict_of_port? h.port
  have hport := h.port
  rw [Step.account_eq, Step.after_eq, h.trouble]
  have ha := s.command.turn_answer store none
  have hc := s.command.course Visit.service ⟨store, none, []⟩
  have hreads := hc.reads
  generalize s.command.plan.turns Visit.service ⟨store, none, []⟩ = ts at ha hc hreads
  generalize (s.command.plan.run Visit.service ⟨store, none, []⟩).1 = result at hc
  refine ⟨ts.map Turn.call, result, ?_, rfl, ?_⟩
  · -- the store answers every call, so no course is left in which one of them fails
    cases hc with
    | refused he =>
      rw [hverdict] at he
      cases he
    | @unresolved e _ =>
      have hr : .error e = (store.answer (.resolve s.command.environment)).1 := ha.1
      simp only [Store.answer] at hr
      split at hr
      · cases hr
      · next hf =>
        cases hr
        exact .unresolved hf
    | unlisted _ => cases ha.2.1
    | @listed env urls _ _ _ he =>
      have hf := Store.find?_of_reply ha.1.symm
      obtain rfl : store.urls env.id = urls := (Except.ok.inj ha.2.1).symm
      cases he with
      | shown hs =>
        rw [hs] at hport
        cases hport
      | absent hs hp hn => exact .absent hs hp hf hn
      | failed hch =>
        obtain ⟨a, hok⟩ := Store.answer_of_isMutation hch.isMutation store
        cases ha.2.2.1.trans hok
      | changed hch => exact .changed hf hch
  · exact store.foldl_effect ha hreads

namespace Command.Proceeds

variable {c : Command} {store store' : Store} {calls calls' : List Call}
  {result result' : Except Failure Completion} {port : UInt16}

theorem unique (h : c.Proceeds store calls result) (h' : c.Proceeds store calls' result') :
    calls = calls' ∧ result = result' := by
  have env_eq {env env' : Environment} (hf : store.find? c.environment = some env)
      (hf' : store.find? c.environment = some env') : env = env' :=
    Option.some.inj (hf.symm.trans hf')
  have unmet {name typed : String} {port : UInt16} {env env' : Environment} {call : Call}
      {o : Outcome} (hc : c = .remove name typed) (hp : readPort typed = .ok port)
      (hf : store.find? c.environment = some env) (hn : ∀ u ∈ store.urls env.id, u.port ≠ port)
      (hf' : store.find? c.environment = some env')
      (hch : Change c env' (store.urls env'.id) call o) : False := by
    subst hc
    obtain rfl := env_eq hf hf'
    cases hch with
    | delete hp' hu =>
      obtain rfl := Except.ok.inj (hp.symm.trans hp')
      obtain ⟨before, after, hsplit, hport, -⟩ := hu
      exact hn _ (by simp [hsplit]) hport
  cases h with
  | unresolved hf =>
    cases h' with
    | unresolved _ => exact ⟨rfl, rfl⟩
    | absent _ _ hf' _ | changed hf' _ => cases hf.symm.trans hf'
  | absent hc hp hf hn =>
    cases h' with
    | unresolved hf' => cases hf.symm.trans hf'
    | absent hc' hp' hf' _ =>
      obtain rfl := env_eq hf hf'
      cases hc.symm.trans hc'
      cases hp.symm.trans hp'
      exact ⟨rfl, rfl⟩
    | changed hf' hch => exact (unmet hc hp hf hn hf' hch).elim
  | changed hf hch =>
    cases h' with
    | unresolved hf' => cases hf.symm.trans hf'
    | absent hc' hp' hf' hn' => exact (unmet hc' hp' hf' hn' hf hch).elim
    | changed hf' hch' =>
      obtain rfl := env_eq hf hf'
      obtain ⟨rfl, rfl⟩ := hch.unique hch'
      exact ⟨rfl, rfl⟩

/-- A command proceeds alike wherever the first devurl on its port is the same. -/
theorem congr (h : c.Proceeds store calls result) (hp : c.port? = some port)
    (hk : store.Keeps (some port) store') : c.Proceeds store' calls result := by
  have first (id : String) : firstOn port (store'.urls id) = firstOn port (store.urls id) :=
    hk.firstOn port rfl id
  cases h with
  | unresolved hf => exact .unresolved ((hk.find? _).trans hf)
  | @absent name typed port' env hc hp' hf hn =>
    subst hc
    obtain rfl := Option.some.inj (hp.symm.trans (Command.port?_remove hp'))
    refine .absent rfl hp' ((hk.find? _).trans hf) (firstOn_eq_none_iff.mp ?_)
    exact (first env.id).trans (firstOn_eq_none_iff.mpr hn)
  | @changed env call o hf hch =>
    obtain rfl := Option.some.inj (hp.symm.trans hch.port?)
    exact .changed ((hk.find? _).trans hf) (hch.congr (first env.id))

/-- The calls only read, or the last of them is the change of the command. -/
theorem behind_cases (h : c.Proceeds store calls result) :
    (∀ store' : Store, store'.behind calls = store') ∨ ∃ env call o,
      store.find? c.environment = some env ∧ Change c env (store.urls env.id) call o ∧
      call ∈ calls ∧ ∀ store' : Store, store'.behind calls = (store'.answer call).2 := by
  cases h with
  | unresolved _ => exact .inl fun store' => store'.behind_cons_of_read rfl []
  | absent _ _ _ _ => exact .inl fun store' => store'.behind_listing _ _
  | changed hf hch =>
    exact .inr ⟨_, _, _, hf, hch, by simp, fun store' => store'.behind_change _ _ _⟩

/-- What a command for one port leaves keeps the first devurl on every other. -/
theorem keeps (h : c.Proceeds store calls result) (hs : store.Sound) (hp : c.port? = some port)
    {other : UInt16} (hne : port ≠ other) : store.Keeps (some other) (store.behind calls) := by
  rcases h.behind_cases with hstill | ⟨env, call, o, hf, hch, -, hbehind⟩
  · rw [hstill]
    exact .refl store _
  · obtain rfl := Option.some.inj (hp.symm.trans hch.port?)
    rw [hbehind]
    refine hch.keeps hs hf fun port' hport => ?_
    obtain rfl := Option.some.inj hport
    exact hne

end Command.Proceeds

/-- What is seen of a step and the store that it leaves follow from how it proceeds. -/
theorem Step.IsFor.of_proceeds {s : Step} {port : UInt16} (h : s.IsFor port) {store : Store}
    {calls : List Call} {result : Except Failure Completion}
    (hp : s.command.Proceeds store calls result) :
    s.account store = ⟨(Command.report s.room result).1, (Command.report s.room result).2, calls⟩ ∧
      s.after store = store.behind calls := by
  obtain ⟨calls', result', hp', hrun⟩ := s.proceeds h store
  obtain ⟨rfl, rfl⟩ := hp.unique hp'
  exact hrun

/-- A step whose environment is not to be found leaves the store as it is. -/
theorem Step.after_of_not_found {s : Step} {port : UInt16} (h : s.IsFor port) {store : Store}
    (hf : store.find? s.command.environment = none) : s.after store = store := by
  obtain ⟨calls, result, hp, -, hafter⟩ := s.proceeds h store
  rw [hafter]
  cases hp with
  | unresolved _ => exact store.behind_cons_of_read rfl []
  | absent _ _ hf' _ | changed hf' _ => cases hf.symm.trans hf'

/-- A step that applies to its environment has an effect there. -/
theorem Step.IsFor.exists_effect {s : Step} {port : UInt16} (h : s.IsFor port) {store : Store}
    (hs : store.Distinct) {before after : List Holding} {g : Holding}
    (hg : store.Holds s.command.environment before g after) (ha : s.command.Applies g.urls) :
    ∃ urls created o, Effect store.created s.command g.urls urls created o ∧ o.port = port := by
  have hverdict := Command.verdict_of_port? h.port
  obtain ⟨call, o, hch⟩ := (s.command.exists_change_iff g.environment g.urls).mpr ⟨hverdict, ha⟩
  obtain ⟨urls, created, heff, -⟩ := hch.effect_of_distinct hs hg
  exact ⟨urls, created, o, heff, Option.some.inj (hch.port?.symm.trans h.port)⟩

/-- A step that has an effect on its environment reports it, and leaves the store with it. -/
theorem Step.run_of_effect {s : Step} {port : UInt16} (h : s.IsFor port) {store : Store}
    (hs : store.Distinct) {before after : List Holding} {g : Holding}
    (hg : store.Holds s.command.environment before g after) {urls : List DevUrl} {created : Nat}
    {o : Outcome} (he : Effect store.created s.command g.urls urls created o) :
    s.Reports store o ∧ s.after store = ⟨before ++ ⟨g.environment, urls⟩ :: after, created⟩ := by
  obtain ⟨calls, result, hp, haccount, hafter⟩ := s.proceeds h store
  cases hp with
  | unresolved hf => cases hg.find?.symm.trans hf
  | absent hc hp hf hn =>
    cases hg.find?.symm.trans hf
    rw [hg.urls hs.environments] at hn
    rw [hc] at he
    generalize g.urls = urls' at he hn
    cases he with
    | @removed _ _ _ pre post u hp' hu _ =>
      obtain rfl := Except.ok.inj (hp.symm.trans hp')
      exact absurd hu (hn u (by simp))
  | changed hf hch =>
    cases hg.find?.symm.trans hf
    rw [hg.urls hs.environments] at hch
    obtain ⟨urls', created', heff, hst⟩ := hch.effect_of_distinct hs hg
    obtain ⟨rfl, rfl, rfl⟩ := heff.unique he
    refine ⟨?_, ?_⟩
    · rw [Step.Reports, haccount]
      exact ⟨rfl, rfl⟩
    · rw [hafter, store.behind_change]
      exact hst

end PortShare
