import PortShare.Proofs.Effect
import PortShare.Traffic

/-! What a command does is settled at the start, as long as others leave its port alone: whichever
other changes come to the store between its calls, it makes the same change and reports the same
outcome. A change for one port leaves the first devurl on every other port as it was. -/

namespace PortShare

def Outcome.port : Outcome → UInt16
  | .created port => port
  | .updated _ port => port
  | .deleted _ port => port

theorem firstOn_append (port : UInt16) (urls urls' : List DevUrl) :
    firstOn port (urls ++ urls') = (firstOn port urls).or (firstOn port urls') :=
  List.find?_append

theorem firstOn_cons_of_ne {port : UInt16} {u : DevUrl} (h : u.port ≠ port) (urls : List DevUrl) :
    firstOn port (u :: urls) = firstOn port urls :=
  List.find?_cons_of_neg (by simpa using h)

/-- A change for one port keeps the first devurl on every other port. -/
theorem Effect.firstOn_of_ne {created created' : Nat} {c : Command} {urls urls' : List DevUrl}
    {o : Outcome} (h : Effect created c urls urls' created' o) {port : UInt16}
    (hp : o.port ≠ port) : firstOn port urls' = firstOn port urls := by
  cases h with
  | replaced _ _ hu _ =>
    rw [firstOn_append, firstOn_append, firstOn_cons_of_ne hp,
      firstOn_cons_of_ne (by rw [hu]; exact hp)]
  | appended _ _ _ =>
    rw [firstOn_append, firstOn_cons_of_ne hp]
    exact Option.or_none
  | removed _ hu _ =>
    rw [firstOn_append, firstOn_append, firstOn_cons_of_ne (by rw [hu]; exact hp)]

theorem Command.port?_remove {name typed : String} {port : UInt16} (h : readPort typed = .ok port) :
    (Command.remove name typed).port? = some port := by
  simp only [Command.port?, checkPort_eq_ok_iff.mpr h]
  rfl

theorem Change.port? {c : Command} {env : Environment} {urls : List DevUrl} {call : Call}
    {o : Outcome} (h : Change c env urls call o) : c.port? = some o.port := by
  cases h with
  | create hp ha hn _ | update hp ha hn _ =>
    simp only [Command.port?, check_eq_ok_iff.mpr ⟨_, _, hp, ha, hn, rfl⟩]
    rfl
  | delete hp _ => exact Command.port?_remove hp

/-- A change depends on the first devurl on its port alone. -/
theorem Change.congr {c : Command} {env : Environment} {urls urls' : List DevUrl} {call : Call}
    {o : Outcome} (h : Change c env urls call o)
    (hf : firstOn o.port urls' = firstOn o.port urls) : Change c env urls' call o := by
  cases h with
  | create hp ha hn hfree =>
    refine .create hp ha hn (firstOn_eq_none_iff.mp ?_)
    exact hf.trans (firstOn_eq_none_iff.mpr hfree)
  | update hp ha hn hu =>
    refine .update hp ha hn (firstOn_eq_some_iff.mp ?_)
    exact hf.trans (firstOn_eq_some_iff.mpr hu)
  | delete hp hu =>
    refine .delete hp (firstOn_eq_some_iff.mp ?_)
    exact hf.trans (firstOn_eq_some_iff.mpr hu)

namespace Store

/-- The store has the environments of `start`, and in each the same first devurl on the port. -/
structure Keeps (start : Store) (port? : Option UInt16) (store : Store) : Prop where
  find? : ∀ name, store.find? name = start.find? name
  firstOn : ∀ port, port? = some port → ∀ id,
    PortShare.firstOn port (store.urls id) = PortShare.firstOn port (start.urls id)

theorem Keeps.refl (start : Store) (port? : Option UInt16) : start.Keeps port? start :=
  ⟨fun _ => rfl, fun _ _ _ => rfl⟩

theorem find?_eq (store : Store) (name : String) :
    store.find? name =
      (store.holdings.map Holding.environment).find? fun env => env.name == name := by
  rw [List.find?_map]
  rfl

/-- Only the environment at that place has other devurls than before. -/
theorem urls_replaced {store : Store} {before after : List Holding} {h : Holding}
    (hsplit : store.holdings = before ++ h :: after)
    (hb : ∀ g ∈ before, g.environment.id ≠ h.environment.id) (urls : List DevUrl) (created : Nat)
    (id : String) :
    (⟨before ++ ⟨h.environment, urls⟩ :: after, created⟩ : Store).urls id =
      if id = h.environment.id then urls else store.urls id := by
  unfold Store.urls
  rw [hsplit]
  by_cases he : id = h.environment.id
  · subst he
    have hnone : before.find? (fun g => g.environment.id == h.environment.id) = none := by
      simpa [List.find?_eq_none] using hb
    simp [List.find?_append, hnone]
  · have hne : (h.environment.id == id) = false := beq_eq_false_iff_ne.mpr fun hi => he hi.symm
    simp only [List.find?_append, List.find?_cons, hne, if_neg he]

end Store

/-- The change of a command, made at a sound store, keeps what the store holds on every port but
the command's own. -/
theorem Change.keeps {c : Command} {store : Store} {env : Environment} {call : Call} {o : Outcome}
    (hs : store.Sound) (hf : store.find? c.environment = some env)
    (hc : Change c env (store.urls env.id) call o) {port? : Option UInt16}
    (hp : ∀ port, port? = some port → o.port ≠ port) :
    store.Keeps port? (store.answer call).2 := by
  obtain ⟨before, h, after, hh, rfl⟩ := Store.Holds.exists_of_find? hf
  rw [hh.urls hs.environments] at hc
  obtain ⟨urls, created, heff, hst⟩ := hc.effect hs hh
  rw [hst]
  refine ⟨fun name => ?_, fun port hport id => ?_⟩
  · rw [Store.find?_eq, Store.find?_eq, hh.split]
    simp only [List.map_append, List.map_cons]
  · rw [Store.urls_replaced hh.split (hh.id_ne hs.environments)]
    split
    · next he =>
      rw [he, hh.urls hs.environments]
      exact heff.firstOn_of_ne (hp port hport)
    · rfl

/-- The plan goes on to make that change, or none, and reports that outcome, as long as the store
keeps what `start` holds on the port. -/
inductive Plan.Settled (start : Store) (port? : Option UInt16) :
    Plan Completion → Option Call → Except Failure (Option Outcome) → Prop where
  | done (a : Completion) : Settled start port? (.done a) none (.ok a.outcome)
  | fail (e : Failure) : Settled start port? (.fail e) none (.error e)
  | note {entry : Log.Entry} {rest : Plan Completion} {change : Option Call}
      {outcome : Except Failure (Option Outcome)} : Settled start port? rest change outcome →
      Settled start port? (.note entry rest) change outcome
  | read {call : Call} {next : call.Answer → Plan Completion} {change : Option Call}
      {outcome : Except Failure (Option Outcome)} : call.isMutation = false →
      (∀ store a, start.Keeps port? store → (store.answer call).1 = .ok a →
        Settled start port? (next a) change outcome) →
      (∀ store e, start.Keeps port? store → (store.answer call).1 = .error e →
        change = none ∧ outcome = .error e) →
      Settled start port? (.ask call next) change outcome
  | change {call : Call} (a : Completion) : call.isMutation = true →
      Settled start port? (.ask call fun _ => .done a) (some call) (.ok a.outcome)

namespace Plan.Settled

variable {start : Store} {port? : Option UInt16}

/-- A plan that inquires is settled if what it does with the devurls is. -/
theorem inquire {name : String} {next : Environment → List DevUrl → Plan Completion}
    {change : Option Call} {outcome : Except Failure (Option Outcome)}
    (hnone : start.find? name = none →
      change = none ∧ outcome = .error (.environmentNotFound name))
    (hsome : ∀ env, start.find? name = some env → ∀ store, start.Keeps port? store →
      Settled start port? (next env (store.urls env.id)) change outcome) :
    Settled start port? (Plan.inquire name next) change outcome := by
  obtain ⟨found, listed, hi⟩ := Plan.inquire_eq name next
  rw [hi]
  refine .read rfl ?_ ?_
  · intro store env hk ha
    have hf : start.find? name = some env := by
      rw [← hk.find?]
      simp only [Store.answer] at ha
      split at ha
      · next found hf =>
        obtain rfl := Except.ok.inj ha
        exact hf
      · cases ha
    refine .note (.read rfl ?_ ?_)
    · intro store urls hk ha
      obtain rfl := Except.ok.inj ha
      exact .note (hsome env hf store hk)
    · intro store e hk ha
      cases ha
  · intro store e hk ha
    simp only [Store.answer] at ha
    split at ha
    · cases ha
    · next hf =>
      obtain rfl := Except.error.inj ha
      exact hnone ((hk.find? name).symm.trans hf)

theorem of_refuses {e : Failure} {p : Plan Completion} (h : Plan.Refuses e p) :
    Settled start port? p none (.error e) := by
  rcases h with rfl | ⟨entry, rfl⟩
  · exact .fail e
  · exact .note (.fail e)

theorem make (entry : Log.Entry) {call : Call} (a : Completion) (h : call.isMutation = true) :
    Settled start port? (Plan.make entry call a) (some call) (.ok a.outcome) :=
  .note (.change a h)

end Plan.Settled

/-- The change that a command is to make at the start, and the outcome it is to report. -/
structure Command.Decided (start : Store) (c : Command) (change : Option Call)
    (outcome : Except Failure (Option Outcome)) : Prop where
  settled : c.plan.Settled start c.port? change outcome
  change : ∀ call, change = some call → ∃ env o, start.find? c.environment = some env ∧
    Change c env (start.urls env.id) call o

theorem Command.put_congr {a : CheckedRequest} {env : Environment} {urls urls' : List DevUrl}
    (h : firstOn a.port urls' = firstOn a.port urls) : put a env urls' = put a env urls := by
  simp only [put, h]

theorem Command.drop_congr {name : String} {port : UInt16} {env : Environment}
    {urls urls' : List DevUrl} (h : firstOn port urls' = firstOn port urls) :
    drop name port env urls' = drop name port env urls := by
  simp only [drop, h]

theorem Command.decided_of_refused {start : Store} {c : Command} {e : Failure}
    (h : c.verdict = .error e) : c.Decided start none (.error e) :=
  ⟨.of_refuses (refuses_plan h), nofun⟩

/-- A command is decided where its environment is not to be found. -/
theorem Command.decided_of_not_found {start : Store} {c : Command}
    {next : Environment → List DevUrl → Plan Completion}
    (hp : c.plan = Plan.inquire c.environment next) (hf : start.find? c.environment = none) :
    c.Decided start none (.error (.environmentNotFound c.environment)) := by
  refine ⟨?_, nofun⟩
  rw [hp]
  refine .inquire (fun _ => ⟨rfl, rfl⟩) fun env he => ?_
  rw [hf] at he
  cases he

/-- A command is decided where it does the same whatever else is on other ports. -/
theorem Command.decided_of_found {start : Store} {c : Command} {env : Environment}
    {next : Environment → List DevUrl → Plan Completion} {change : Option Call}
    {outcome : Except Failure (Option Outcome)}
    (hp : c.plan = Plan.inquire c.environment next) (hf : start.find? c.environment = some env)
    (hn : ∀ store, start.Keeps c.port? store →
      (next env (store.urls env.id)).Settled start c.port? change outcome)
    (hc : ∀ call, change = some call → ∃ o, Change c env (start.urls env.id) call o) :
    c.Decided start change outcome := by
  constructor
  · rw [hp]
    refine .inquire (fun h => ?_) fun env' he => ?_
    · rw [hf] at h
      cases h
    · obtain rfl := Option.some.inj (hf.symm.trans he)
      exact hn
  · intro call h
    obtain ⟨o, ho⟩ := hc call h
    exact ⟨env, o, hf, ho⟩

/-- Every command is decided at the start. -/
theorem Command.exists_decided (start : Store) (c : Command) :
    ∃ change outcome, c.Decided start change outcome := by
  cases hv : c.verdict with
  | error e => exact ⟨_, _, decided_of_refused hv⟩
  | ok _ =>
    cases c with
    | list name format =>
      have hp := plan_list name format
      cases hf : start.find? name with
      | none => exact ⟨_, _, decided_of_not_found hp hf⟩
      | some env =>
        refine ⟨none, .ok none, decided_of_found hp hf (fun store _ => ?_) nofun⟩
        unfold display
        split
        · exact .note (.done _)
        · exact .done _
    | upsert r =>
      cases hc : r.check with
      | error e => simp [verdict, hc, Except.map] at hv
      | ok a =>
        obtain ⟨port, access, -, -, -, rfl⟩ := check_eq_ok_iff.mp hc
        have hp := plan_upsert hc
        have hport : (Command.upsert r).port? = some port := by
          simp only [port?, hc]
          rfl
        cases hf : start.find? r.environment with
        | none => exact ⟨_, _, decided_of_not_found hp hf⟩
        | some env =>
          obtain ⟨entry, call, o, hm, hch⟩ := put_eq_make hc env (start.urls env.id)
          refine ⟨some call, .ok (some o), decided_of_found hp hf (fun store hk => ?_) ?_⟩
          · rw [put_congr (hk.firstOn port hport env.id), hm]
            exact .make entry o.completion hch.isMutation
          · rintro _ ⟨⟩
            exact ⟨o, hch⟩
    | remove name typed =>
      cases hc : checkPort typed with
      | error e => simp [verdict, hc, Except.map] at hv
      | ok port =>
        have hp : (Command.remove name typed).plan = _ := plan_remove hc
        have hport : (Command.remove name typed).port? = some port := by
          simp only [port?, hc]
          rfl
        cases hf : start.find? name with
        | none => exact ⟨_, _, decided_of_not_found hp hf⟩
        | some env =>
          have same (store : Store) (hk : start.Keeps (Command.remove name typed).port? store) :
              drop name port env (store.urls env.id) = drop name port env (start.urls env.id) :=
            drop_congr (hk.firstOn port hport env.id)
          cases hu : firstOn port (start.urls env.id) with
          | none =>
            refine ⟨none, .error (.notFound name port),
              decided_of_found hp hf (fun store hk => ?_) nofun⟩
            rw [same store hk]
            simp only [drop, hu]
            exact .fail _
          | some u =>
            have hch : Change (.remove name typed) env (start.urls env.id)
                (.delete env.id u.id) (.deleted u.id port) :=
              .delete (checkPort_eq_ok_iff.mp hc) (firstOn_eq_some_iff.mp hu)
            refine ⟨some (.delete env.id u.id), .ok (some (.deleted u.id port)),
              decided_of_found hp hf (fun store hk => ?_) ?_⟩
            · rw [same store hk]
              simp only [drop, hu]
              exact .make _ (Outcome.deleted u.id port).completion rfl
            · rintro _ ⟨⟩
              exact ⟨_, hch⟩

end PortShare
