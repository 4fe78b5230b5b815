import Mathlib.Data.List.TakeWhile
import PortShare.Proofs.Http.Naming
import PortShare.Proofs.Http.Script
import PortShare.Proofs.ReadBeforeWrite

/-! Safety against every service that may be met. Whatever is replied, a command sends at most three
requests, and one that changes something only as the last of them, when the two replies before it
call for that change. -/

namespace PortShare

open Http (Client Exchange Reply Request)

namespace Http.Client

/-- Can requests name the URLs for all that the command asks for? -/
structure CanName (client : Client) (c : Command) (env : Environment) (urls : List DevUrl) :
    Prop where
  resolve : client.names (.resolve c.environment) = true
  list : client.names (.list env.id) = true
  change : ∀ change o, Change c env urls change o → client.names change = true

/-- What a command may send when these replies come. -/
structure SendsSafely (client : Client) (c : Command) (replies : List Reply)
    (requests : List Request) : Prop where
  order : ∃ id change calls, List.Forall₂ client.Carries requests calls ∧
    calls <+: [.resolve c.environment, .list id, change] ∧ change.isMutation = true
  lists : ∀ r, requests[1]? = some r → ∃ env, Finds (replyAt replies 0) c.environment env ∧
    client.Carries r (.list env.id)
  last : ∀ (n : Nat) r, requests[n]? = some r → r.method ≠ .get → n = 2 ∧ requests.length = 3
  sends : (∃ r ∈ requests, r.method ≠ .get) ↔ c.verdict = .ok () ∧ ∃ env urls,
    Finds (replyAt replies 0) c.environment env ∧ Lists (replyAt replies 1) urls ∧
    c.Applies urls ∧ client.CanName c env urls
  changes : ∀ r ∈ requests, r.method ≠ .get → ∃ env urls change o,
    Finds (replyAt replies 0) c.environment env ∧ Lists (replyAt replies 1) urls ∧
    Change c env urls change o ∧ client.Carries r change

theorem prefix_three {α : Type} {a b d : α} {l : List α} (h : l <+: [a, b, d]) :
    l = [] ∨ l = [a] ∨ l = [a, b] ∨ l = [a, b, d] := by
  obtain ⟨rest, h⟩ := h
  match l, h with
  | [], _ => simp
  | [_], h => simp_all
  | [_, _], h => simp_all
  | [_, _, _], h => simp_all
  | _ :: _ :: _ :: _ :: _, h => simp at h

section replies

variable {client : Client} {replies : List Reply}

theorem answers_resolve_iff {name : String} {env : Environment} {n : Nat} :
    client.answers replies n (.resolve name) = .ok env ↔
      client.names (.resolve name) = true ∧ Finds (replyAt replies n) name env := by
  rw [answers_eq_ok_iff, answerTo_resolve_iff]

theorem answers_list_iff {id : String} {urls : List DevUrl} {n : Nat} :
    client.answers replies n (.list id) = .ok urls ↔
      client.names (.list id) = true ∧ Lists (replyAt replies n) urls := by
  rw [answers_eq_ok_iff, answerTo_list_iff]

theorem Lists.unique {reply : Reply} {urls urls' : List DevUrl} (h : Lists reply urls)
    (h' : Lists reply urls') : urls = urls' := by
  obtain ⟨body, rfl, hr⟩ := h
  obtain ⟨body', hd, hr'⟩ := h'
  cases hd
  exact Except.ok.inj (hr.symm.trans hr')

theorem Finds.unique {reply : Reply} {name : String} {env env' : Environment}
    (h : Finds reply name env) (h' : Finds reply name env') : env = env' := by
  obtain ⟨body, found, rfl, hr, hf⟩ := h
  obtain ⟨body', found', hd, hr', hf'⟩ := h'
  cases hd
  cases hr.symm.trans hr'
  exact Option.some.inj (hf.symm.trans hf')

/-- The requests that change something are those for the calls that do. -/
theorem exists_mutation_iff {requests : List Request} {calls : List Call}
    (h : List.Forall₂ client.Carries requests calls) :
    (∃ r ∈ requests, r.method ≠ .get) ↔ ∃ call ∈ calls, call.isMutation = true := by
  induction h with
  | nil => simp
  | cons hc _ ih =>
    simp only [List.mem_cons, exists_eq_or_imp, ih, hc.method, Call.method_ne_get_iff]

theorem carried_of_getElem? {requests : List Request} {calls : List Call}
    (h : List.Forall₂ client.Carries requests calls) {n : Nat} {r : Request}
    (hr : requests[n]? = some r) : ∃ call, calls[n]? = some call ∧ client.Carries r call := by
  induction h generalizing n with
  | nil => simp at hr
  | cons hc _ ih =>
    cases n with
    | zero =>
      obtain rfl := Option.some.inj hr
      exact ⟨_, rfl, hc⟩
    | succ n => exact ih hr

end replies

section run

variable {client : Client} (c : Command) {replies : List Reply}
  (hfinal : ∀ reply ∈ replies, reply.isFinal = true)

include hfinal

/-- A change that the replies call for is made if all of it can be named. -/
theorem calls_of_change {env : Environment} {urls : List DevUrl} {change : Call} {o : Outcome}
    (hf : Finds (replyAt replies 0) c.environment env) (hl : Lists (replyAt replies 1) urls)
    (hn : client.CanName c env urls) (hc : Change c env urls change o) :
    ((c.plan.turns client.service (.start replies)).map Turn.call).takeWhile client.names =
      [.resolve c.environment, .list env.id, change] := by
  have ha := c.plan.answered_by_replies client hfinal (.start replies) 0 rfl
  have hr : client.answers replies 0 (.resolve c.environment) = .ok env :=
    answers_resolve_iff.mpr ⟨hn.resolve, hf⟩
  have hu : client.answers replies 1 (.list env.id) = .ok urls :=
    answers_list_iff.mpr ⟨hn.list, hl⟩
  obtain ⟨ht, -⟩ := (c.course client.service (.start replies)).turns_of_change ha hr hu hc
  simp only [ht, List.map_cons, List.map_nil, List.takeWhile_cons, hn.resolve, hn.list,
    hn.change change o hc, if_true, List.takeWhile_nil]

/-- The second call is made to what the first reply holds. -/
theorem list_of_call {call : Call}
    (hm : (((c.plan.turns client.service (.start replies)).map Turn.call).takeWhile
      client.names)[1]? = some call) :
    ∃ env, Finds (replyAt replies 0) c.environment env ∧ call = .list env.id := by
  have ha := c.plan.answered_by_replies client hfinal (.start replies) 0 rfl
  obtain ⟨rest, hrest⟩ := List.takeWhile_prefix client.names
    (l := (c.plan.turns client.service (.start replies)).map Turn.call)
  have hcall : ((c.plan.turns client.service (.start replies)).map Turn.call)[1]? = some call := by
    rw [← hrest, List.getElem?_append_left (List.getElem?_eq_some_iff.mp hm).1]
    exact hm
  obtain ⟨env, hr, rfl⟩ :=
    (c.course client.service (.start replies)).list_of_second ha hcall
  exact ⟨env, (answers_resolve_iff.mp hr).2, rfl⟩

/-- What changes something follows from the two replies. -/
theorem change_of_call {change : Call}
    (hm : change ∈ ((c.plan.turns client.service (.start replies)).map Turn.call).takeWhile
      client.names) (hw : change.isMutation = true) :
    ∃ env urls o, Finds (replyAt replies 0) c.environment env ∧
      Lists (replyAt replies 1) urls ∧ Change c env urls change o ∧ client.CanName c env urls := by
  have ha := c.plan.answered_by_replies client hfinal (.start replies) 0 rfl
  have hp := c.protocol client.service (.start replies) ha
  obtain ⟨env, urls, o, hr, hl, hc, -⟩ :=
    hp.changes change ((List.takeWhile_sublist _).subset hm) hw
  obtain ⟨hnr, hf⟩ := answers_resolve_iff.mp hr
  obtain ⟨hnl, hl⟩ := answers_list_iff.mp hl
  refine ⟨env, urls, o, hf, hl, hc, hnr, hnl, fun change' o' hc' => ?_⟩
  obtain ⟨rfl, -⟩ := hc.unique hc'
  exact List.mem_takeWhile_imp hm

theorem sends_iff {requests : List Request}
    (hcar : List.Forall₂ client.Carries requests
      (((c.plan.turns client.service (.start replies)).map Turn.call).takeWhile client.names)) :
    (∃ r ∈ requests, r.method ≠ .get) ↔ c.verdict = .ok () ∧ ∃ env urls,
      Finds (replyAt replies 0) c.environment env ∧ Lists (replyAt replies 1) urls ∧
      c.Applies urls ∧ client.CanName c env urls := by
  rw [exists_mutation_iff hcar]
  constructor
  · rintro ⟨change, hm, hw⟩
    obtain ⟨env, urls, o, hf, hl, hc, hn⟩ := change_of_call c hfinal hm hw
    obtain ⟨hverdict, happ⟩ := (c.exists_change_iff env urls).mp ⟨_, o, hc⟩
    exact ⟨hverdict, env, urls, hf, hl, happ, hn⟩
  · rintro ⟨hverdict, env, urls, hf, hl, happ, hn⟩
    obtain ⟨change, o, hc⟩ := (c.exists_change_iff env urls).mpr ⟨hverdict, happ⟩
    rw [calls_of_change c hfinal hf hl hn hc]
    exact ⟨change, by simp, hc.isMutation⟩

/-- Against every service, whatever it replies, a command sends what it may. Replies that refer to
other places are the only ones left out. -/
theorem sends_safely (room : Option Nat) :
    SendsSafely client c replies (c.run client.service room (.start replies)).2.2.requests := by
  obtain ⟨sent, hsent, hcar⟩ := c.plan.requests_run client (.start replies) hfinal
  rw [Command.snd_run, hsent, Exchange.start, List.nil_append]
  have ha := c.plan.answered_by_replies client hfinal (.start replies) 0 rfl
  obtain ⟨env, change, hpre, hw, -⟩ :=
    (c.protocol client.service (.start replies) ha).order
  have hcalls := (List.takeWhile_prefix client.names).trans hpre
  have called {n : Nat} {r : Request} (hr : sent[n]? = some r) :=
    carried_of_getElem? hcar hr
  exact {
    order := ⟨env.id, change, _, hcar, hcalls, hw⟩
    lists := by
      intro r hr
      obtain ⟨call, hcall, hcr⟩ := called hr
      obtain ⟨env, hf, rfl⟩ := list_of_call c hfinal hcall
      exact ⟨env, hf, hcr⟩
    last := by
      intro n r hr hm
      obtain ⟨call, hcall, hcr⟩ := called hr
      rw [hcr.method, Call.method_ne_get_iff] at hm
      rw [hcar.length_eq]
      rcases prefix_three hcalls with hl | hl | hl | hl <;> rw [hl] at hcall ⊢
      all_goals
        rcases n with _ | _ | _ | n <;> simp at hcall <;> subst hcall
      all_goals first
        | cases hm
        | exact ⟨rfl, rfl⟩
    sends := sends_iff c hfinal hcar
    changes := by
      intro r hr hm
      obtain ⟨n, hn⟩ := List.mem_iff_getElem?.mp hr
      obtain ⟨call, hcall, hcr⟩ := called hn
      rw [hcr.method, Call.method_ne_get_iff] at hm
      obtain ⟨env, urls, o, hf, hl, hc, -⟩ :=
        change_of_call c hfinal (List.mem_of_getElem? hcall) hm
      exact ⟨env, urls, call, o, hf, hl, hc, hcr⟩ }

end run

theorem change_removal (id : String) :
    Change removal dev [devurl id] (.delete "e1" id) (.deleted id 8080) :=
  .delete rfl ⟨[], [], rfl, rfl, nofun⟩

/-- The removal that the replies call for is sent. -/
theorem sends_safely_at_loopback :
    ∃ r ∈ (removal.run atLoopback.service none
      (.start (repliesWith dev (devurl "u1")))).2.2.requests, r.method ≠ .get := by
  refine (sends_safely removal (isFinal_repliesWith _ _) none).sends.mpr
    ⟨rfl, dev, [devurl "u1"], finds_repliesWith _ _, lists_repliesWith _ nofun,
      ⟨8080, rfl, _, List.mem_cons_self, rfl⟩, ?_⟩
  refine ⟨by decide +kernel, by decide +kernel, fun change o hc => ?_⟩
  obtain ⟨rfl, -⟩ := hc.unique (change_removal "u1")
  decide +kernel

/-- An id that no URL has room for keeps the removal from being sent, whatever the replies say. -/
theorem long_id_not_sent :
    removal.verdict = .ok () ∧
    (∃ env urls, Finds (replyAt (repliesWith dev (devurl (letters 65535))) 0) "dev" env ∧
      Lists (replyAt (repliesWith dev (devurl (letters 65535))) 1) urls ∧
      removal.Applies urls) ∧
    ¬ ∃ r ∈ (removal.run atLoopback.service none
      (.start (repliesWith dev (devurl (letters 65535))))).2.2.requests, r.method ≠ .get := by
  have hf := finds_repliesWith dev (devurl (letters 65535))
  have hl : Lists (replyAt (repliesWith dev (devurl (letters 65535))) 1)
      [devurl (letters 65535)] := lists_repliesWith dev nofun
  refine ⟨rfl, ⟨_, _, hf, hl, ⟨8080, rfl, _, List.mem_cons_self, rfl⟩⟩, fun h => ?_⟩
  obtain ⟨sent, hsent, hcar⟩ := removal.plan.requests_run atLoopback
    (.start (repliesWith dev (devurl (letters 65535)))) (isFinal_repliesWith _ _)
  rw [Command.snd_run, hsent, Exchange.start, List.nil_append] at h
  obtain ⟨-, env, urls, hf', hl', -, hn⟩ :=
    (sends_iff removal (isFinal_repliesWith _ _) hcar).mp h
  obtain rfl := hf.unique hf'
  obtain rfl := hl.unique hl'
  have hn := hn.change _ _ (change_removal (letters 65535))
  rw [not_names_letters hasHost_atLoopback _ (by decide)] at hn
  cases hn

end Http.Client

end PortShare
