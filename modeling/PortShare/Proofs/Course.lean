import PortShare.Command
import PortShare.Proofs.Turns

/-! The course of a command, at any service: which calls it makes with which answers, and what it
ends with. The change that it makes is a relation between the command and what was listed. -/

namespace PortShare

/-- Is `a` the first item of which `p` holds? -/
def IsFirst {α : Type} (p : α → Prop) (a : α) (as : List α) : Prop :=
  ∃ before after, as = before ++ a :: after ∧ p a ∧ ∀ b ∈ before, ¬ p b

theorem find?_eq_some_iff_isFirst {α : Type} {p : α → Bool} {a : α} {as : List α} :
    as.find? p = some a ↔ IsFirst (fun b => p b = true) a as := by
  rw [List.find?_eq_some_iff_append]
  constructor
  · rintro ⟨hp, before, after, rfl, hb⟩
    exact ⟨before, after, rfl, hp, fun b h => by simpa using hb b h⟩
  · rintro ⟨before, after, rfl, hp, hb⟩
    exact ⟨hp, before, after, rfl, fun b h => by simpa using hb b h⟩

/-- A list splits in one way at its first item of a kind. -/
theorem split_unique {α : Type} {p : α → Prop} {before before' after after' : List α} {a a' : α}
    (h : before ++ a :: after = before' ++ a' :: after') (ha : p a) (ha' : p a')
    (hb : ∀ b ∈ before, ¬ p b) (hb' : ∀ b ∈ before', ¬ p b) :
    before = before' ∧ a = a' ∧ after = after' := by
  induction before generalizing before' with
  | nil =>
    cases before' with
    | nil =>
      obtain ⟨rfl, rfl⟩ := List.cons.inj h
      exact ⟨rfl, rfl, rfl⟩
    | cons b' bs' =>
      obtain ⟨rfl, -⟩ := List.cons.inj h
      exact absurd ha (hb' a List.mem_cons_self)
  | cons b bs ih =>
    cases before' with
    | nil =>
      obtain ⟨rfl, -⟩ := List.cons.inj h
      exact absurd ha' (hb b List.mem_cons_self)
    | cons b' bs' =>
      obtain ⟨rfl, htail⟩ := List.cons.inj h
      obtain ⟨rfl, rfl, rfl⟩ := ih htail (fun c hc => hb c (List.mem_cons_of_mem _ hc))
        fun c hc => hb' c (List.mem_cons_of_mem _ hc)
      exact ⟨rfl, rfl, rfl⟩

theorem firstOn_eq_some_iff {port : UInt16} {u : DevUrl} {urls : List DevUrl} :
    firstOn port urls = some u ↔ IsFirst (fun w => w.port = port) u urls := by
  simp only [firstOn, find?_eq_some_iff_isFirst, beq_iff_eq]

theorem firstOn_eq_none_iff {port : UInt16} {urls : List DevUrl} :
    firstOn port urls = none ↔ ∀ u ∈ urls, u.port ≠ port := by
  simp only [firstOn, List.find?_eq_none, beq_iff_eq, ne_eq]

theorem checkPort_eq_ok_iff {s : String} {port : UInt16} :
    checkPort s = .ok port ↔ readPort s = .ok port := by
  unfold checkPort
  cases readPort s <;> simp

theorem checkAccess_eq_ok_iff {s : String} {access : AccessLevel} :
    checkAccess s = .ok access ↔ AccessLevel.ofName? s = some access := by
  rw [checkAccess_eq_readAccess, readAccess]
  cases AccessLevel.ofName? s <;> simp

theorem check_eq_ok_iff {r : Request} {a : CheckedRequest} :
    r.check = .ok a ↔ ∃ port access, readPort r.port = .ok port ∧
      AccessLevel.ofName? r.access = some access ∧ isName r.name = true ∧
      a = ⟨r.environment, port, access, nonEmpty? r.name⟩ := by
  simp only [← checkPort_eq_ok_iff, ← checkAccess_eq_ok_iff]
  unfold Request.check
  cases checkPort r.port with
  | error e => simp
  | ok port =>
    cases checkAccess r.access with
    | error e => simp
    | ok access => by_cases h : isName r.name = true <;> simp [h, eq_comm]

theorem getD_nonEmpty? (s : String) : (nonEmpty? s).getD "" = s := by
  unfold nonEmpty?
  split
  · next h => simp_all
  · rfl

namespace Command

/-- The environment that a command names. -/
def environment : Command → String
  | .list environment _ => environment
  | .upsert request => request.environment
  | .remove environment _ => environment

/-- Whether the typed fields of a command are in order, or the failure that they are. -/
def verdict : Command → Except Failure Unit
  | .list .. => .ok ()
  | .upsert request => request.check.map fun _ => ()
  | .remove _ typed => (checkPort typed).map fun _ => ()

/-- Is there anything that the command changes in an environment with these devurls? -/
def Applies : Command → List DevUrl → Prop
  | .list .., _ => False
  | .upsert _, _ => True
  | .remove _ typed, urls => ∃ port, readPort typed = .ok port ∧ ∃ u ∈ urls, u.port = port

/-- What a listing prints. -/
def list.text (environment : String) : Format → List DevUrl → Option String
  | .json, urls => some (Report.json urls)
  | .human, urls =>
    if urls.isEmpty then some (emptyNotice environment ++ "\n") else Report.table urls

end Command

/-- The change that a command in order makes to an environment with these devurls, and the outcome
that it reports. -/
inductive Change : Command → Environment → List DevUrl → Call → Outcome → Prop where
  | create {r : Request} {env : Environment} {urls : List DevUrl} {port : UInt16}
      {access : AccessLevel} :
      readPort r.port = .ok port → AccessLevel.ofName? r.access = some access →
      isName r.name = true → (∀ u ∈ urls, u.port ≠ port) →
      Change (.upsert r) env urls (.create env.id ⟨env.id, port, access, r.name, "http"⟩)
        (.created port)
  | update {r : Request} {env : Environment} {urls : List DevUrl} {port : UInt16}
      {access : AccessLevel} {u : DevUrl} :
      readPort r.port = .ok port → AccessLevel.ofName? r.access = some access →
      isName r.name = true → IsFirst (fun w => w.port = port) u urls →
      Change (.upsert r) env urls (.update env.id u.id ⟨env.id, port, access, r.name, "http"⟩)
        (.updated u.id port)
  | delete {name typed : String} {env : Environment} {urls : List DevUrl} {port : UInt16}
      {u : DevUrl} :
      readPort typed = .ok port → IsFirst (fun w => w.port = port) u urls →
      Change (.remove name typed) env urls (.delete env.id u.id) (.deleted u.id port)

theorem Change.isMutation {c : Command} {env : Environment} {urls : List DevUrl} {call : Call}
    {o : Outcome} (h : Change c env urls call o) : call.isMutation = true := by
  cases h <;> rfl

theorem Change.unique {c : Command} {env : Environment} {urls : List DevUrl} {call call' : Call}
    {o o' : Outcome} (h : Change c env urls call o) (h' : Change c env urls call' o') :
    call = call' ∧ o = o' := by
  have port_eq {s : String} {port port' : UInt16} (hp : readPort s = .ok port)
      (hp' : readPort s = .ok port') : port = port' := Except.ok.inj (hp.symm.trans hp')
  have taken {port : UInt16} {u : DevUrl} (hu : IsFirst (fun w => w.port = port) u urls)
      (hn : ∀ w ∈ urls, w.port ≠ port) : False := by
    obtain ⟨before, after, rfl, hp, -⟩ := hu
    exact hn u (by simp) hp
  have first_eq {port : UInt16} {u u' : DevUrl} (hu : IsFirst (fun w => w.port = port) u urls)
      (hu' : IsFirst (fun w => w.port = port) u' urls) : u = u' :=
    Option.some.inj ((firstOn_eq_some_iff.mpr hu).symm.trans (firstOn_eq_some_iff.mpr hu'))
  cases h with
  | create hp ha _ hn =>
    cases h' with
    | create hp' ha' _ _ =>
      obtain rfl := port_eq hp hp'
      obtain rfl := Option.some.inj (ha.symm.trans ha')
      exact ⟨rfl, rfl⟩
    | update hp' _ _ hu =>
      obtain rfl := port_eq hp hp'
      exact (taken hu hn).elim
  | update hp ha _ hu =>
    cases h' with
    | create hp' _ _ hn =>
      obtain rfl := port_eq hp hp'
      exact (taken hu hn).elim
    | update hp' ha' _ hu' =>
      obtain rfl := port_eq hp hp'
      obtain rfl := Option.some.inj (ha.symm.trans ha')
      obtain rfl := first_eq hu hu'
      exact ⟨rfl, rfl⟩
  | delete hp hu =>
    cases h' with
    | delete hp' hu' =>
      obtain rfl := port_eq hp hp'
      obtain rfl := first_eq hu hu'
      exact ⟨rfl, rfl⟩

/-- How a command ends once it has found and listed its environment. -/
inductive Ending (c : Command) (env : Environment) (urls : List DevUrl) :
    List Turn → Except Failure Completion → Prop where
  | shown {name : String} {format : Format} : c = .list name format →
      Ending c env urls [] (.ok ⟨none, Command.list.text name format urls⟩)
  | absent {name typed : String} {port : UInt16} : c = .remove name typed →
      readPort typed = .ok port → (∀ u ∈ urls, u.port ≠ port) →
      Ending c env urls [] (.error (.notFound name port))
  | failed {call : Call} {o : Outcome} {e : Failure} : Change c env urls call o →
      Ending c env urls [⟨call, .error e⟩] (.error e)
  | changed {call : Call} {o : Outcome} {a : call.Answer} : Change c env urls call o →
      Ending c env urls [⟨call, .ok a⟩] (.ok o.completion)

/-- The ways in which a command can go. -/
inductive Course (c : Command) : List Turn → Except Failure Completion → Prop where
  | refused {e : Failure} : c.verdict = .error e → Course c [] (.error e)
  | unresolved {e : Failure} : c.verdict = .ok () →
      Course c [⟨.resolve c.environment, .error e⟩] (.error e)
  | unlisted {env : Environment} {e : Failure} : c.verdict = .ok () →
      Course c [⟨.resolve c.environment, .ok env⟩, ⟨.list env.id, .error e⟩] (.error e)
  | listed {env : Environment} {urls : List DevUrl} {ts : List Turn}
      {result : Except Failure Completion} : c.verdict = .ok () → Ending c env urls ts result →
      Course c (⟨.resolve c.environment, .ok env⟩ :: ⟨.list env.id, .ok urls⟩ :: ts) result

/-- A turn that changes something is the third one, and follows from the two before it. -/
theorem Course.change_of_mem {c : Command} {ts : List Turn} {result : Except Failure Completion}
    (h : Course c ts result) {t : Turn} (ht : t ∈ ts) (hm : t.call.isMutation = true) :
    ∃ env urls o, ts = [⟨.resolve c.environment, .ok env⟩, ⟨.list env.id, .ok urls⟩, t] ∧
      Change c env urls t.call o ∧ ∀ a, t.answer = .ok a → result = .ok o.completion := by
  have first {call : Call} {answer : Except Failure call.Answer} {us : List Turn}
      (hr : call.isMutation = false) (hu : t ∈ ⟨call, answer⟩ :: us) : t ∈ us := by
    rcases List.mem_cons.mp hu with rfl | hu
    · rw [hr] at hm
      cases hm
    · exact hu
  cases h with
  | refused _ => cases ht
  | unresolved _ => cases first rfl ht
  | unlisted _ => cases first rfl (first rfl ht)
  | listed _ he =>
    have hl := first rfl (first rfl ht)
    cases he with
    | shown _ => cases hl
    | absent _ _ _ => cases hl
    | failed hc =>
      obtain rfl := List.mem_singleton.mp hl
      exact ⟨_, _, _, rfl, hc, nofun⟩
    | changed hc =>
      obtain rfl := List.mem_singleton.mp hl
      exact ⟨_, _, _, rfl, hc, fun _ _ => rfl⟩

namespace Plan

variable {α σ : Type}

/-- Does the plan end with the failure before it has asked for anything? -/
def Refuses {α : Type} (e : Failure) (p : Plan α) : Prop :=
  p = .fail e ∨ ∃ entry, p = .note entry (.fail e)

theorem refuses_accept (e : Failure) : Refuses e (accept (.error e : Except Failure α)) := by
  cases h : e.notice? with
  | none => exact .inl (by simp only [accept, h])
  | some message => exact .inr ⟨⟨.error, message⟩, by simp only [accept, h]⟩

theorem Refuses.bind {β : Type} {e : Failure} {p : Plan α} (h : Refuses e p) (f : α → Plan β) :
    Refuses e (p >>= f) := by
  rcases h with rfl | ⟨entry, rfl⟩
  · exact .inl rfl
  · exact .inr ⟨entry, rfl⟩

theorem Refuses.turns {e : Failure} {p : Plan α} (h : Refuses e p) (service : Service σ) (s : σ) :
    p.turns service s = [] ∧ (p.run service s).1 = .error e := by
  rcases h with rfl | ⟨entry, rfl⟩ <;> exact ⟨rfl, rfl⟩

/-- The plan that looks an environment up, lists it and goes on with what it has found. -/
def inquire (name : String) (next : Environment → List DevUrl → Plan α) : Plan α := do
  let env ← resolve name
  let urls ← listIn env
  next env urls

theorem inquire_eq (name : String) (next : Environment → List DevUrl → Plan α) :
    ∃ (found : Environment → Log.Entry) (listed : Environment → List DevUrl → Log.Entry),
      inquire name next = .ask (.resolve name) fun env => .note (found env) <|
        .ask (.list env.id) fun urls => .note (listed env urls) (next env urls) := ⟨_, _, rfl⟩

theorem inquire_cases (service : Service σ) (name : String)
    (next : Environment → List DevUrl → Plan α) (s : σ) :
    (∃ e, (inquire name next).turns service s = [⟨.resolve name, .error e⟩] ∧
      ((inquire name next).run service s).1 = .error e) ∨
    (∃ env e, (inquire name next).turns service s =
        [⟨.resolve name, .ok env⟩, ⟨.list env.id, .error e⟩] ∧
      ((inquire name next).run service s).1 = .error e) ∨
    (∃ env urls s', (inquire name next).turns service s =
        ⟨.resolve name, .ok env⟩ :: ⟨.list env.id, .ok urls⟩ :: (next env urls).turns service s' ∧
      ((inquire name next).run service s).1 = ((next env urls).run service s').1) := by
  obtain ⟨found, listed, hi⟩ := inquire_eq name next
  rw [hi]
  rcases h₁ : service.answer (.resolve name) s with ⟨e | env, s₁⟩
  · exact .inl ⟨e, turns_ask_error h₁, by rw [run_ask_error h₁]⟩
  · rw [turns_ask_ok h₁, run_ask_ok h₁, turns_note, run_note]
    rcases h₂ : service.answer (.list env.id) (service.note (found env) s₁) with ⟨e | urls, s₂⟩
    · exact .inr (.inl ⟨env, e, by rw [turns_ask_error h₂], by rw [run_ask_error h₂]⟩)
    · rw [turns_ask_ok h₂, run_ask_ok h₂, turns_note, run_note]
      exact .inr (.inr ⟨env, urls, _, rfl, rfl⟩)

/-- The plan that makes one call after a note, and ends with `a`. -/
def make (entry : Log.Entry) (call : Call) (a : α) : Plan α :=
  .note entry (.ask call fun _ => .done a)

theorem make_cases (service : Service σ) (entry : Log.Entry) (call : Call) (a : α) (s : σ) :
    (∃ e, (make entry call a).turns service s = [⟨call, .error e⟩] ∧
      ((make entry call a).run service s).1 = .error e) ∨
    (∃ answer, (make entry call a).turns service s = [⟨call, .ok answer⟩] ∧
      ((make entry call a).run service s).1 = .ok a) := by
  rw [make, turns_note, run_note]
  rcases h : service.answer call (service.note entry s) with ⟨e | answer, s'⟩
  · exact .inl ⟨e, turns_ask_error h, by rw [run_ask_error h]⟩
  · exact .inr ⟨answer, turns_ask_ok h, by rw [run_ask_ok h]; rfl⟩

end Plan

namespace Command

open Plan (inquire make)

variable {σ : Type}

/-- What a listing does once the devurls are there. -/
def display (name : String) (format : Format) (urls : List DevUrl) : Plan Completion :=
  let done : Plan Completion := .done ⟨none, list.text name format urls⟩
  if format = .human ∧ urls.isEmpty then .note ⟨.info, emptyNotice name⟩ done else done

/-- What an update or creation does once the devurls are there. -/
def put (a : CheckedRequest) (env : Environment) (urls : List DevUrl) : Plan Completion :=
  match firstOn a.port urls with
  | some u => make ⟨.info, "updating devurl for port " ++ Numeral.decimal a.port.toNat⟩
      (.update env.id u.id (a.mutation env.id)) (Outcome.updated u.id a.port).completion
  | none => make ⟨.info, "adding devurl for port " ++ Numeral.decimal a.port.toNat⟩
      (.create env.id (a.mutation env.id)) (Outcome.created a.port).completion

/-- What a deletion does once the devurls are there. -/
def drop (name : String) (port : UInt16) (env : Environment) (urls : List DevUrl) :
    Plan Completion :=
  match firstOn port urls with
  | some u => make ⟨.info, "deleting devurl for port " ++ Numeral.decimal port.toNat⟩
      (.delete env.id u.id) (Outcome.deleted u.id port).completion
  | none => .fail (.notFound name port)

theorem plan_list (name : String) (format : Format) :
    (Command.list name format).plan = inquire name fun _ urls => display name format urls := by
  refine congrArg (inquire name) ?_
  funext _ urls
  cases format with
  | json => rfl
  | human => cases h : urls.isEmpty <;> simp only [display, list.text, h] <;> rfl

theorem plan_upsert {r : Request} {a : CheckedRequest} (h : r.check = .ok a) :
    (Command.upsert r).plan = inquire a.environment (put a) := by
  simp only [plan, PortShare.upsert, h]
  refine congrArg (inquire a.environment) ?_
  funext env urls
  cases hf : firstOn a.port urls with
  | none =>
    simp only [Plan.bind, pure, put, hf]
    rfl
  | some u =>
    simp only [Plan.bind, pure, put, hf]
    rfl

theorem plan_remove {name typed : String} {port : UInt16} (h : checkPort typed = .ok port) :
    (Command.remove name typed).plan = inquire name (drop name port) := by
  simp only [plan, PortShare.remove, h]
  refine congrArg (inquire name) ?_
  funext env urls
  cases hf : firstOn port urls with
  | none => simp only [Plan.bind, pure, drop, hf]
  | some u =>
    simp only [Plan.bind, pure, drop, hf]
    rfl

theorem put_eq_make {r : Request} {a : CheckedRequest} (h : r.check = .ok a) (env : Environment)
    (urls : List DevUrl) :
    ∃ entry call o, put a env urls = make entry call o.completion ∧
      Change (.upsert r) env urls call o := by
  obtain ⟨port, access, hp, ha, hn, rfl⟩ := check_eq_ok_iff.mp h
  cases hf : firstOn port urls with
  | none =>
    refine ⟨_, _, .created port, by simp only [put, hf]; rfl, ?_⟩
    simp only [CheckedRequest.mutation, getD_nonEmpty?]
    exact .create hp ha hn (firstOn_eq_none_iff.mp hf)
  | some u =>
    refine ⟨_, _, .updated u.id port, by simp only [put, hf]; rfl, ?_⟩
    simp only [CheckedRequest.mutation, getD_nonEmpty?]
    exact .update hp ha hn (firstOn_eq_some_iff.mp hf)

section course

variable {c : Command} {service : Service σ}

theorem refuses_plan {e : Failure} (h : c.verdict = .error e) : Plan.Refuses e c.plan := by
  cases c with
  | list name format => cases h
  | upsert r =>
    cases hc : r.check with
    | ok a => simp [verdict, hc, Except.map] at h
    | error e' =>
      obtain rfl : e' = e := by simpa [verdict, hc, Except.map] using h
      simp only [plan, PortShare.upsert, hc]
      exact ((Plan.refuses_accept e').bind _).bind _
  | remove name typed =>
    cases hc : checkPort typed with
    | ok port => simp [verdict, hc, Except.map] at h
    | error e' =>
      obtain rfl : e' = e := by simpa [verdict, hc, Except.map] using h
      simp only [plan, PortShare.remove, hc]
      exact ((Plan.refuses_accept e').bind _).bind _

theorem ending_of_make {env : Environment} {urls : List DevUrl} {call : Call} {o : Outcome}
    (h : Change c env urls call o) (entry : Log.Entry) (s : σ) :
    Ending c env urls ((make entry call o.completion).turns service s)
      ((make entry call o.completion).run service s).1 := by
  rcases Plan.make_cases service entry call o.completion s with
    ⟨e, ht, hr⟩ | ⟨answer, ht, hr⟩ <;> rw [ht, hr]
  · exact .failed h
  · exact .changed h

theorem course_of_inquire {next : Environment → List DevUrl → Plan Completion}
    (hp : c.plan = inquire c.environment next) (ha : c.verdict = .ok ()) (s : σ)
    (hn : ∀ env urls s', Ending c env urls ((next env urls).turns service s')
      ((next env urls).run service s').1) :
    Course c (c.plan.turns service s) (c.plan.run service s).1 := by
  rw [hp]
  rcases Plan.inquire_cases service c.environment next s with
    ⟨e, ht, hr⟩ | ⟨env, e, ht, hr⟩ | ⟨env, urls, s', ht, hr⟩ <;> rw [ht, hr]
  · exact .unresolved ha
  · exact .unlisted ha
  · exact .listed ha (hn env urls s')

end course

/-- Every command goes in one of those ways, whatever the service answers. -/
theorem course (c : Command) (service : Service σ) (s : σ) :
    Course c (c.plan.turns service s) (c.plan.run service s).1 := by
  cases ha : c.verdict with
  | error e =>
    obtain ⟨ht, hr⟩ := (refuses_plan ha).turns service s
    rw [ht, hr]
    exact .refused ha
  | ok _ =>
    cases c with
    | list name format =>
      refine course_of_inquire (plan_list name format) ha s fun env urls s' => ?_
      have hd : (display name format urls).turns service s' = [] ∧
          ((display name format urls).run service s').1 =
            .ok ⟨none, list.text name format urls⟩ := by
        unfold display
        split <;> exact ⟨rfl, rfl⟩
      rw [hd.1, hd.2]
      exact .shown rfl
    | upsert r =>
      cases hc : r.check with
      | error e => simp [verdict, hc, Except.map] at ha
      | ok a =>
        obtain ⟨port, access, -, -, -, rfl⟩ := check_eq_ok_iff.mp hc
        refine course_of_inquire (plan_upsert hc) ha s fun env urls s' => ?_
        obtain ⟨entry, call, o, hm, hch⟩ := put_eq_make hc env urls
        rw [hm]
        exact ending_of_make hch entry s'
    | remove name typed =>
      cases hc : checkPort typed with
      | error e => simp [verdict, hc, Except.map] at ha
      | ok port =>
        have hp := checkPort_eq_ok_iff.mp hc
        refine course_of_inquire (plan_remove hc) ha s fun env urls s' => ?_
        cases hf : firstOn port urls with
        | none =>
          simp only [drop, hf]
          exact .absent rfl hp (firstOn_eq_none_iff.mp hf)
        | some u =>
          simp only [drop, hf]
          exact ending_of_make (.delete hp (firstOn_eq_some_iff.mp hf)) _ s'

/-- There is a change just when the fields are in order and the command applies. -/
theorem exists_change_iff (c : Command) (env : Environment) (urls : List DevUrl) :
    (∃ call o, Change c env urls call o) ↔ c.verdict = .ok () ∧ c.Applies urls := by
  constructor
  · rintro ⟨call, o, h⟩
    cases h with
    | create hp ha hn _ =>
      have := check_eq_ok_iff.mpr ⟨_, _, hp, ha, hn, rfl⟩
      exact ⟨by simp [verdict, this, Except.map], trivial⟩
    | update hp ha hn _ =>
      have := check_eq_ok_iff.mpr ⟨_, _, hp, ha, hn, rfl⟩
      exact ⟨by simp [verdict, this, Except.map], trivial⟩
    | delete hp hf =>
      obtain ⟨before, after, rfl, hu, -⟩ := hf
      refine ⟨by simp [verdict, checkPort_eq_ok_iff.mpr hp, Except.map], _, hp, _, ?_, hu⟩
      simp
  · rintro ⟨ha, h⟩
    cases c with
    | list name format => cases h
    | upsert r =>
      cases hc : r.check with
      | error e => simp [verdict, hc, Except.map] at ha
      | ok a =>
        obtain ⟨-, call, o, -, hch⟩ := put_eq_make hc env urls
        exact ⟨call, o, hch⟩
    | remove name typed =>
      obtain ⟨port, hp, u, hu, hup⟩ := h
      cases hf : firstOn port urls with
      | none => exact absurd hup (firstOn_eq_none_iff.mp hf u hu)
      | some w => exact ⟨_, _, .delete hp (firstOn_eq_some_iff.mp hf)⟩

section run

variable {σ : Type} (service : Service σ) (room : Option Nat) (c : Command) (s : σ)

/-- What is reported and printed of a result. -/
def report (room : Option Nat) :
    Except Failure Completion → Except Failure (Option Outcome) × Bytes
  | .error e => (.error e, [])
  | .ok done => done.print room

theorem run_eq : c.run service room s =
    ((report room (c.plan.run service s).1).1, (report room (c.plan.run service s).1).2,
      (c.plan.run service s).2) := by
  unfold run
  rcases c.plan.run service s with ⟨_ | done, s'⟩ <;> rfl

theorem snd_run : (c.run service room s).2.2 = (c.plan.run service s).2 := by rw [run_eq]

/-- Only a listing for people may have nothing that can be printed. -/
theorem text_of_course {c : Command} {ts : List Turn} {done : Completion}
    (h : Course c ts (.ok done)) : (∃ text, done.text = some text) ∨
      ∃ name env urls, c = .list name .human ∧ done = ⟨none, none⟩ ∧
        ts = [⟨.resolve name, .ok env⟩, ⟨.list env.id, .ok urls⟩] ∧
        list.text name .human urls = none := by
  cases h with
  | @listed env urls ts result _ he =>
    cases he with
    | changed hc => exact .inl ⟨_, rfl⟩
    | @shown name format hc =>
      subst hc
      cases format with
      | json => exact .inl ⟨_, rfl⟩
      | human =>
        cases ht : list.text name .human urls with
        | some text => exact .inl ⟨text, rfl⟩
        | none => exact .inr ⟨name, env, urls, rfl, rfl, rfl, ht⟩

theorem run_unlimited : (c.run service none s).1 =
    (c.plan.run service s).1 >>= fun done => (done.print none).1 := by
  rw [run_eq]
  rcases (c.plan.run service s).1 with _ | done <;> rfl

/-- With all the room there is, a command reports the outcome of its plan; only a listing for people
may give up instead. -/
theorem run_unlimited_cases :
    (c.run service none s).1 = (c.plan.run service s).1.map Completion.outcome ∨
      (c.plan.run service s).1.map Completion.outcome = .ok none ∧
        (c.run service none s).1 = .error (.panicked Report.tooWide) ∧
        ∃ name, c = .list name .human := by
  have hc := c.course service s
  rw [run_unlimited]
  cases hp : (c.plan.run service s).1 with
  | error e => exact .inl rfl
  | ok done =>
    rw [hp] at hc
    rcases text_of_course hc with ⟨text, ht⟩ | ⟨name, -, -, hl, rfl, -⟩
    · left
      obtain ⟨outcome, _⟩ := done
      obtain rfl := ht
      rfl
    · exact .inr ⟨rfl, rfl, name, hl⟩

end run

end Command

end PortShare
