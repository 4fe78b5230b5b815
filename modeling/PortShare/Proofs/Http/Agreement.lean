import Mathlib.Data.List.TakeWhile
import PortShare.Proofs.Holdings
import PortShare.Proofs.Http.Naming
import PortShare.Proofs.Http.Script
import PortShare.Proofs.Visit
import PortShare.Session

/-! A command over HTTP does what it does at a store, when the service replies with what the store
holds: the same calls, each in its request, the same result and the same output. -/

namespace PortShare

open Http (Client Exchange Reply Request)

namespace Http.Client

/-- What a run over HTTP has to do with the same command at a store. A call that no request can be
made for is where it ends, as that call is refused. -/
structure Agrees (client : Client) (direct : Except Failure (Option Outcome) × Bytes × Visit)
    (remote : Except Failure (Option Outcome) × Bytes × Exchange) : Prop where
  requests : List.Forall₂ client.Carries remote.2.2.requests
    (direct.2.2.calls.takeWhile client.names)
  same : (∀ call ∈ direct.2.2.calls, client.names call = true) →
    remote.1 = direct.1 ∧ remote.2.1 = direct.2.1
  unnamed : ∀ before call after, direct.2.2.calls = before ++ call :: after →
    (∀ b ∈ before, client.names b = true) → ∀ e, client.way call = .error e →
    remote.1 = .error e ∧ remote.2.1 = []

/-- The replies mean the answers in the turns. -/
def Fits (replies : List Reply) (ts : List Turn) : Prop :=
  AnsweredBy (fun n call => call.answerTo (replyAt replies n)) 0 ts

variable {client : Client} {replies : List Reply}

theorem answeredBy_of_fits {ts : List Turn} {n : Nat}
    (h : AnsweredBy (fun n call => call.answerTo (replyAt replies n)) n ts)
    (hn : ∀ t ∈ ts, client.names t.call = true) : AnsweredBy (client.answers replies) n ts := by
  induction ts generalizing n with
  | nil => trivial
  | cons t ts ih =>
    refine ⟨?_, ih h.2 fun u hu => hn u (by simp [hu])⟩
    rw [answers_of_names (hn t (by simp))]
    exact h.1

theorem answeredBy_append_left {f : Answers} {n : Nat} {ts us : List Turn}
    (h : AnsweredBy f n (ts ++ us)) : AnsweredBy f n ts := by
  induction ts generalizing n with
  | nil => trivial
  | cons t ts ih => exact ⟨h.1, ih h.2⟩

theorem takeWhile_append_cons {α : Type} {p : α → Bool} {before after : List α} {a : α}
    (hb : ∀ b ∈ before, p b = true) (ha : p a = false) :
    (before ++ a :: after).takeWhile p = before := by
  rw [List.takeWhile_append_of_pos hb, List.takeWhile_cons_of_neg (by rw [ha]; decide),
    List.append_nil]

/-- Every list is one of which `p` holds throughout, or has a first item of which it does not. -/
theorem forall_or_split {α : Type} (p : α → Bool) (as : List α) :
    (∀ a ∈ as, p a = true) ∨
      ∃ before a after, as = before ++ a :: after ∧ (∀ b ∈ before, p b = true) ∧ p a = false := by
  induction as with
  | nil => exact .inl nofun
  | cons a as ih =>
    cases ha : p a with
    | false => exact .inr ⟨[], a, as, rfl, nofun, ha⟩
    | true =>
      rcases ih with h | ⟨before, b, after, rfl, hb, hf⟩
      · exact .inl (by simpa [ha] using h)
      · exact .inr ⟨a :: before, b, after, rfl, by simpa [ha] using hb, hf⟩

section run

variable {α : Type} (hfinal : ∀ reply ∈ replies, reply.isFinal = true) {p : Plan α} {v : Visit}

include hfinal

/-- Where all calls can be named, the turns over HTTP are those at the store. -/
theorem run_of_named (hf : Fits replies (p.turns Visit.service v))
    (hn : ∀ t ∈ p.turns Visit.service v, client.names t.call = true) :
    p.turns client.service (.start replies) = p.turns Visit.service v ∧
      (p.run client.service (.start replies)).1 = (p.run Visit.service v).1 := by
  obtain ⟨ht, hr⟩ := Plan.run_of_answers Visit.service p v 0 (answeredBy_of_fits hf hn)
  obtain ⟨ht', hr'⟩ := Plan.run_of_answers client.service p (.start replies) 0
    (p.answered_by_replies client hfinal _ 0 rfl)
  exact ⟨ht'.trans ht.symm, hr'.trans hr.symm⟩

/-- A call that cannot be named is the last one over HTTP. -/
theorem run_of_unnamed {before after : List Turn} {t : Turn} {e : Failure}
    (hf : Fits replies (p.turns Visit.service v))
    (hsplit : p.turns Visit.service v = before ++ t :: after)
    (hb : ∀ u ∈ before, client.names u.call = true) (ht : client.way t.call = .error e) :
    p.turns client.service (.start replies) = before ++ [⟨t.call, .error e⟩] ∧
      (p.run client.service (.start replies)).1 = .error e := by
  rw [hsplit] at hf
  have hfail : client.answers replies (0 + before.length) t.call = .error e :=
    answers_of_way_error ht replies _
  obtain ⟨hts, hr⟩ := Plan.run_until_failure Visit.service p v 0 before t after _ hsplit
    (answeredBy_of_fits (answeredBy_append_left hf) hb) hfail
  obtain ⟨ht', hr'⟩ := Plan.run_of_answers client.service p (.start replies) 0
    (p.answered_by_replies client hfinal _ 0 rfl)
  exact ⟨ht'.trans hts, hr'.trans hr⟩

/-- The calls in requests are those made at the store, up to one that cannot be named. -/
theorem named_calls (hf : Fits replies (p.turns Visit.service v)) :
    ((p.turns client.service (.start replies)).map Turn.call).takeWhile client.names =
      ((p.turns Visit.service v).map Turn.call).takeWhile client.names := by
  rcases forall_or_split (fun t => client.names t.call) (p.turns Visit.service v) with
    hn | ⟨before, t, after, hsplit, hb, ht⟩
  · rw [(run_of_named hfinal hf hn).1]
  · obtain ⟨e, he⟩ := not_names_iff.mp ht
    rw [(run_of_unnamed hfinal hf hsplit hb he).1, hsplit, List.map_append, List.map_append]
    have hb' : ∀ call ∈ before.map Turn.call, client.names call = true := by
      simpa using hb
    rw [List.map_cons, List.map_cons, takeWhile_append_cons hb' ht, takeWhile_append_cons hb' ht]

/-- Replies that mean what the store answers make for agreement. -/
theorem agrees_of_fits (s : Step) (store : Store)
    (hf : Fits replies (s.command.plan.turns Visit.service ⟨store, s.trouble, []⟩)) :
    client.Agrees (s.run store) (s.command.run client.service s.room (.start replies)) := by
  obtain ⟨sent, hsent, hcar⟩ := s.command.plan.requests_run client (.start replies) hfinal
  have hcalls : (s.run store).2.2.calls =
      (s.command.plan.turns Visit.service ⟨store, s.trouble, []⟩).map Turn.call := by
    rw [Step.run, Command.snd_run, Plan.calls_run, List.nil_append]
  refine ⟨?_, ?_, ?_⟩ <;> rw [hcalls]
  · rw [Command.snd_run, hsent, ← named_calls hfinal hf]
    exact hcar
  · intro hn
    obtain ⟨-, hr⟩ := run_of_named hfinal hf (by simpa using hn)
    rw [Step.run, Command.run_eq, Command.run_eq, hr]
    exact ⟨rfl, rfl⟩
  · intro before call after hsplit hb e he
    obtain ⟨us, t, vs, hts, rfl, rfl, rfl⟩ := exists_turn_of_call hsplit
    obtain ⟨-, hr⟩ := run_of_unnamed hfinal hf hts (by simpa using hb) he
    rw [Command.run_eq, hr]
    exact ⟨rfl, rfl⟩

end run

section replies

variable {store : Store} {c : Command} {environments devurls body : Bytes} {status : Nat}
  {complete : Bool}

/-- The environments in a reply make for the answer that the store gives. -/
theorem answerTo_resolve_of_writes (name : String)
    (h : WritesEnvironments (store.holdings.map Holding.environment) environments) :
    (Call.resolve name).answerTo (.response 200 environments true) =
      store.reply none (.resolve name) := by
  have hf : ((store.holdings.map Holding.environment).find? fun e => e.name == name) =
      store.find? name := List.find?_map
  simp only [Call.answerTo, Call.judge, Response.decode, if_true, readEnvironments_of_writes h,
    Store.reply, Store.answer, bind, Except.bind, pick, hf]
  cases store.find? name <;> rfl

theorem answerTo_list_of_writes {env : Environment} {name : String}
    (hid : (store.holdings.map fun h => h.environment.id).Nodup)
    (hn : ∀ h ∈ store.holdings, ∀ u ∈ h.urls, u.name ≠ some "")
    (hd : ∀ before h after, store.Holds name before h after → WritesDevUrls h.urls devurls)
    (hr : store.reply none (.resolve name) = .ok env) :
    (Call.list env.id).answerTo (.response 200 devurls true) = store.reply none (.list env.id) := by
  have hf : store.find? name = some env := by
    simp only [Store.reply, Store.answer] at hr
    cases hf : store.find? name with
    | none =>
      rw [hf] at hr
      cases hr
    | some found =>
      rw [hf] at hr
      rw [Except.ok.inj hr]
  obtain ⟨before, h, after, hh, rfl⟩ := Store.Holds.exists_of_find? hf
  have hread := readDevUrls_of_writes (hd before h after hh) (hn h (by simp [hh.split]))
  simp only [Call.answerTo, Call.judge, Response.decode, if_true, hread, Store.reply,
    Store.answer, hh.urls hid]

theorem fits_of_writes (hid : (store.holdings.map fun h => h.environment.id).Nodup)
    (hn : ∀ h ∈ store.holdings, ∀ u ∈ h.urls, u.name ≠ some "")
    (he : WritesEnvironments (store.holdings.map Holding.environment) environments)
    (hd : ∀ before h after, store.Holds c.environment before h after →
      WritesDevUrls h.urls devurls)
    (hs : isSuccess status = true) :
    Fits [.response 200 environments true, .response 200 devurls true,
        .response status body complete]
      (c.plan.turns Visit.service ⟨store, none, []⟩) := by
  have ha := c.turn_answer store none
  have h := c.course Visit.service ⟨store, none, []⟩
  generalize c.plan.turns Visit.service ⟨store, none, []⟩ = ts at h ha ⊢
  generalize (c.plan.run Visit.service ⟨store, none, []⟩).1 = result at h
  cases h with
  | refused _ => trivial
  | unresolved _ => exact ⟨ha.1.trans (answerTo_resolve_of_writes _ he).symm, trivial⟩
  | unlisted _ => cases ha.2.1
  | listed _ hend =>
    refine ⟨ha.1.trans (answerTo_resolve_of_writes _ he).symm,
      ha.2.1.trans (answerTo_list_of_writes hid hn hd ha.1.symm).symm, ?_⟩
    cases hend with
    | shown _ | absent _ _ _ => trivial
    | failed hc => cases hc <;> cases ha.2.2.1
    | changed hc => cases hc <;> exact ⟨(if_pos hs).symm, trivial⟩

/-- A command over HTTP agrees with the same command at a store, for every store in which ids tell
environments apart and no name is empty. -/
theorem agrees_with_store (client : Client) (store : Store) (c : Command)
    (hid : (store.holdings.map fun h => h.environment.id).Nodup)
    (hn : ∀ h ∈ store.holdings, ∀ u ∈ h.urls, u.name ≠ some "")
    (he : WritesEnvironments (store.holdings.map Holding.environment) environments)
    (hd : ∀ before h after, store.Holds c.environment before h after →
      WritesDevUrls h.urls devurls)
    (hs : isSuccess status = true) (room : Option Nat) :
    client.Agrees ((⟨c, none, room⟩ : Step).run store)
      (c.run client.service room (.start [.response 200 environments true,
        .response 200 devurls true, .response status body complete])) :=
  agrees_of_fits (by simp [Reply.isFinal]) ⟨c, none, room⟩ store (fits_of_writes hid hn he hd hs)

end replies

/-- A store that holds one environment, with one devurl in it. -/
def storeWith (env : Environment) (u : DevUrl) : Store := ⟨[⟨env, [u]⟩], 0⟩

theorem storeWith_devurls {env : Environment} {u : DevUrl} {name : String} :
    ∀ before h after, (storeWith env u).Holds name before h after →
      WritesDevUrls h.urls (Utf8.bytes (Json.Value.list [u.toJson]).render) := by
  intro before h after hh
  have hm : h ∈ (storeWith env u).holdings := by simp [hh.split]
  obtain rfl := List.mem_singleton.mp hm
  exact writesDevUrls_render [u]

theorem storeWith_removal (id : String) :
    ((⟨removal, none, none⟩ : Step).run (storeWith dev (devurl id))).1 =
      .ok (some (.deleted id 8080)) ∧
    ((⟨removal, none, none⟩ : Step).run (storeWith dev (devurl id))).2.2.calls =
      [.resolve "dev", .list "e1", .delete "e1" id] := ⟨rfl, rfl⟩

/-- A removal is the same over HTTP. -/
theorem removal_at_loopback :
    (removal.run atLoopback.service none (.start (repliesWith dev (devurl "u1")))).1 =
      .ok (some (.deleted "u1" 8080)) := by
  have h : atLoopback.Agrees ((⟨removal, none, none⟩ : Step).run (storeWith dev (devurl "u1")))
      (removal.run atLoopback.service none (.start (repliesWith dev (devurl "u1")))) :=
    agrees_with_store atLoopback (storeWith dev (devurl "u1")) removal (by decide)
      (by simp [storeWith, devurl]) (writesEnvironments_render [dev]) storeWith_devurls rfl none
  obtain ⟨hr, hc⟩ := storeWith_removal "u1"
  refine (h.same ?_).1.trans hr
  rw [hc]
  decide +kernel

/-- An id that no URL has room for: a removal that is made at the store fails over HTTP. -/
theorem long_id_disagrees :
    ((⟨removal, none, none⟩ : Step).run (storeWith dev (devurl (letters 65535)))).1 =
      .ok (some (.deleted (letters 65535) 8080)) ∧
    (removal.run atLoopback.service none
      (.start (repliesWith dev (devurl (letters 65535))))).1 =
      .error (.remoteUnavailable "delete devurl" "builder error") := by
  obtain ⟨hr, hc⟩ := storeWith_removal (letters 65535)
  have hf : Fits (repliesWith dev (devurl (letters 65535))) (removal.plan.turns Visit.service
      ⟨storeWith dev (devurl (letters 65535)), none, []⟩) :=
    fits_of_writes (by decide) (by simp [storeWith, devurl]) (writesEnvironments_render [dev])
      storeWith_devurls rfl
  have hw := way_letters hasHost_atLoopback "e1" (n := 65535) (by decide)
  have h : atLoopback.Agrees _ _ :=
    agrees_of_fits (isFinal_repliesWith _ _) ⟨removal, none, none⟩ _ hf
  refine ⟨hr, (h.unnamed [.resolve "dev", .list "e1"] _ [] hc ?_ _ hw).1⟩
  decide +kernel

end Http.Client

end PortShare
