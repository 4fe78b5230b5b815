import Mathlib.Data.List.Forall2
import PortShare.Command
import PortShare.Proofs.Http.Calls
import PortShare.Proofs.Wire

/-! Runs over HTTP against replies that are given beforehand, of every kind but those that refer to
other places: the `n`th call is answered by the `n`th reply, and the requests are those for the
calls, as far as these can be named. -/

namespace PortShare

open Http (Client Exchange Reply Request)

namespace Http.Client

/-- The answers of calls that get these replies. -/
def answers (client : Client) (replies : List Reply) : Answers := fun n call =>
  match client.way call with
  | .ok _ => call.answerTo (replyAt replies n)
  | .error e => .error e

theorem answers_of_names {client : Client} {call : Call} (h : client.names call = true)
    (replies : List Reply) (n : Nat) :
    client.answers replies n call = call.answerTo (replyAt replies n) := by
  obtain ⟨address, route, hw⟩ := names_iff.mp h
  rw [answers, hw]

theorem answers_of_way_error {client : Client} {call : Call} {e : Failure}
    (h : client.way call = .error e) (replies : List Reply) (n : Nat) :
    client.answers replies n call = .error e := by
  rw [answers, h]

/-- A call that is answered could be named, and its answer is what the reply means. -/
theorem answers_eq_ok_iff {client : Client} {replies : List Reply} {n : Nat} {call : Call}
    {a : call.Answer} : client.answers replies n call = .ok a ↔
      client.names call = true ∧ call.answerTo (replyAt replies n) = .ok a := by
  constructor
  · intro h
    cases hn : client.names call with
    | true =>
      rw [answers_of_names hn] at h
      exact ⟨rfl, h⟩
    | false =>
      obtain ⟨e, he⟩ := not_names_iff.mp hn
      rw [answers_of_way_error he] at h
      cases h
  · rintro ⟨hn, h⟩
    rwa [answers_of_names hn]

end Http.Client

namespace Plan

variable {α : Type} (client : Client)

theorem answered_by_replies {replies : List Reply} (hf : ∀ reply ∈ replies, reply.isFinal = true)
    (p : Plan α) (x : Exchange) :
    ∀ n, x.replies = replies.drop n →
      AnsweredBy (client.answers replies) n (p.turns client.service x) := by
  induction p generalizing x with
  | done a => exact fun n _ => trivial
  | fail e => exact fun n _ => trivial
  | note entry rest ih => exact ih (x.note entry)
  | ask call next ih =>
    intro n hx
    cases hn : client.names call with
    | false =>
      obtain ⟨e, he⟩ := Client.not_names_iff.mp hn
      rw [turns_ask_error (Client.answer_of_way_error he x)]
      exact ⟨(Client.answers_of_way_error he replies n).symm, trivial⟩
    | true =>
      obtain ⟨ha, -, hr⟩ := Client.answer_of_names hn hx (Client.isFinal_replyAt hf n)
      rw [← Client.answers_of_names hn] at ha
      rcases h : client.answer call x with ⟨e | a, x'⟩
      · rw [h] at ha
        rw [turns_ask_error h]
        exact ⟨ha, trivial⟩
      · rw [h] at ha hr
        rw [turns_ask_ok h]
        exact ⟨ha, ih a x' (n + 1) hr⟩

/-- The requests of a run, each for one of its calls and in their order. -/
theorem requests_run (p : Plan α) (x : Exchange) (hf : ∀ reply ∈ x.replies, reply.isFinal = true) :
    ∃ sent, (p.run client.service x).2.requests = x.requests ++ sent ∧
      List.Forall₂ client.Carries sent
        (((p.turns client.service x).map Turn.call).takeWhile client.names) := by
  induction p generalizing x with
  | done a => exact ⟨[], (List.append_nil _).symm, .nil⟩
  | fail e => exact ⟨[], (List.append_nil _).symm, .nil⟩
  | note entry rest ih => exact ih (x.note entry) hf
  | ask call next ih =>
    cases hn : client.names call with
    | false =>
      obtain ⟨e, he⟩ := Client.not_names_iff.mp hn
      have h := Client.answer_of_way_error he x
      rw [turns_ask_error h, run_ask_error h, List.map_cons,
        List.takeWhile_cons_of_neg (by rw [hn]; decide)]
      exact ⟨[], (List.append_nil _).symm, .nil⟩
    | true =>
      obtain ⟨-, ⟨r, hc, hr⟩, hrest⟩ := Client.answer_of_names hn (x := x) (n := 0)
        (List.drop_zero (l := x.replies)).symm (Client.isFinal_replyAt hf 0)
      rcases h : client.answer call x with ⟨e | a, x'⟩
      · rw [h] at hr
        rw [turns_ask_error h, run_ask_error h, List.map_cons, List.takeWhile_cons_of_pos hn]
        exact ⟨[r], hr, .cons hc .nil⟩
      · rw [h] at hr hrest
        have hf' : ∀ reply ∈ x'.replies, reply.isFinal = true := fun reply hm =>
          hf reply ((List.drop_subset _ _) (hrest ▸ hm))
        obtain ⟨sent, hsent, hall⟩ := ih a x' hf'
        rw [turns_ask_ok h, run_ask_ok h, List.map_cons, List.takeWhile_cons_of_pos hn]
        exact ⟨r :: sent, by rw [hsent, hr, List.append_assoc]; rfl, .cons hc hall⟩

end Plan

namespace Http.Client

variable {client : Client}

/-- The bytes of a complete reply with status 200. -/
def Delivers (reply : Reply) (body : Bytes) : Prop := reply = .response 200 body true

/-- The first environment of that name is in the reply. -/
def Finds (reply : Reply) (name : String) (env : Environment) : Prop :=
  ∃ body found, Delivers reply body ∧ readEnvironments body = .ok found ∧
    (found.find? fun e => e.name == name) = some env

/-- The devurls are in the reply. -/
def Lists (reply : Reply) (urls : List DevUrl) : Prop :=
  ∃ body, Delivers reply body ∧ readDevUrls body = .ok urls

theorem pick_eq_ok_iff {name : String} {found : List Environment} {env : Environment} :
    pick name found = .ok env ↔ (found.find? fun e => e.name == name) = some env := by
  unfold pick
  cases found.find? fun e => e.name == name <;> simp

/-- Data is read off a complete reply with status 200 alone. -/
theorem decode_eq_ok_iff {α : Type} {status : Nat} {bytes : Bytes} {complete : Bool}
    {operation : String} {read : Bytes → Except Json.Problem α} {a : α} :
    Response.decode ⟨status, if complete then some bytes else none⟩ operation read = .ok a ↔
      ∃ body, Delivers (.response status bytes complete) body ∧ read body = .ok a := by
  unfold Response.decode Delivers
  by_cases h : status = 200
  · cases complete with
    | false => simp [h]
    | true => cases hr : read bytes <;> simp [h, hr]
  · simp [h]

theorem bind_eq_ok_iff {ε α β : Type} {x : Except ε α} {f : α → Except ε β} {b : β} :
    x >>= f = .ok b ↔ ∃ a, x = .ok a ∧ f a = .ok b := by
  cases x <;> simp [bind, Except.bind]

theorem answerTo_resolve_iff {name : String} {reply : Reply} {env : Environment} :
    (Call.resolve name).answerTo reply = .ok env ↔ Finds reply name env := by
  cases reply with
  | response status bytes complete =>
    simp only [Call.answerTo, Call.judge, bind_eq_ok_iff, decode_eq_ok_iff, pick_eq_ok_iff]
    constructor
    · rintro ⟨found, ⟨body, hd, hr⟩, hp⟩
      exact ⟨body, found, hd, hr, hp⟩
    · rintro ⟨body, found, hd, hr, hp⟩
      exact ⟨found, ⟨body, hd, hr⟩, hp⟩
  | redirect | unanswered | interrupted => simp [Call.answerTo, Finds, Delivers]

theorem answerTo_list_iff {id : String} {reply : Reply} {urls : List DevUrl} :
    (Call.list id).answerTo reply = .ok urls ↔ Lists reply urls := by
  cases reply with
  | response status bytes complete =>
    simp only [Call.answerTo, Call.judge, decode_eq_ok_iff, Lists]
  | redirect | unanswered | interrupted => simp [Call.answerTo, Lists, Delivers]

/-- The replies of a service that holds one environment, with one devurl in it. -/
def repliesWith (env : Environment) (u : DevUrl) : List Reply :=
  [.response 200 (Utf8.bytes (Json.Value.list [env.toJson]).render) true,
    .response 200 (Utf8.bytes (Json.Value.list [u.toJson]).render) true, .response 204 [] true]

/-- The environment of the examples. -/
def dev : Environment := ⟨"e1", "dev"⟩

/-- The devurl of the examples, by its id. -/
def devurl (id : String) : DevUrl := ⟨id, "", 8080, none, .owner⟩

/-- The command of the examples. -/
def removal : Command := .remove "dev" "8080"

theorem isFinal_repliesWith (env : Environment) (u : DevUrl) :
    ∀ reply ∈ repliesWith env u, reply.isFinal = true := by
  simp [repliesWith, Reply.isFinal]

theorem finds_repliesWith (env : Environment) (u : DevUrl) :
    Finds (replyAt (repliesWith env u) 0) env.name env := by
  refine ⟨_, [env], rfl, readEnvironments_of_writes (writesEnvironments_render [env]), ?_⟩
  rw [List.find?_cons_of_pos (by simp)]

theorem lists_repliesWith (env : Environment) {u : DevUrl} (h : u.name ≠ some "") :
    Lists (replyAt (repliesWith env u) 1) [u] :=
  ⟨_, rfl, readDevUrls_of_writes (writesDevUrls_render [u]) (by simpa using h)⟩

end Http.Client

end PortShare
