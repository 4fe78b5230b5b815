import Mathlib.Data.List.Forall2
import PortShare.Command
import PortShare.Proofs.Http.Calls

/-!
One service, two session tokens. A token is in the last pair of the query of a request, and of the
URL that a request is referred from, and nowhere else, so that with the same replies a command does
the same, whatever the token is. -/

namespace PortShare

namespace Http

open Client (Errand Response ended)

/-- A text that ends in the pair which holds the token. -/
def withPair (front : List Char) (token : String) : List Char :=
  front ++ "session_token=".toList ++ Url.formEncode token.toList

/-- Texts that are the same but for the token in the last pair of a query, which they end in. -/
def AlikeInText (s t : String) (as bs : List Char) : Prop :=
  as = bs ∨ ∃ front, (front.getLast? = some '?' ∨ front.getLast? = some '&') ∧
    as = withPair front s ∧ bs = withPair front t

/-- A query is open to one more pair. -/
def IsOpen (front : List Char) : Prop := front = [] ∨ front.getLast? = some '&'

/-- Addresses that are the same but for the token in the last pair of their queries. -/
structure Address.Alike (s t : String) (a b : Address) : Prop where
  secure : a.secure = b.secure
  host : a.host = b.host
  port : a.port = b.port
  path : a.path = b.path
  query : a.query = b.query ∨ ∃ front, IsOpen front ∧
    a.query = some (withPair front s) ∧ b.query = some (withPair front t)

/-- Ways that are the same but for the token at the end of what is named there. -/
structure Route.Alike (s t : String) (r r' : Route) : Prop where
  tunnel : r.tunnel = r'.tunnel
  peer : r.peer = r'.peer
  target : AlikeInText s t r.target.toList r'.target.toList

/-- URLs from which a request is referred. -/
def AlikeInReferer (s t : String) : Option String → Option String → Prop :=
  Option.Rel fun u v => AlikeInText s t u.toList v.toList

/-- Requests that are the same but for the token in the last pair of their queries, or of the
queries of the URLs that they are referred from. -/
structure Request.Alike (s t : String) (r r' : Request) : Prop where
  method : r.method = r'.method
  address : r.address.Alike s t r'.address
  route : r.route.Alike s t r'.route
  referer : AlikeInReferer s t r.referer r'.referer
  body : r.body = r'.body
  timeout : r.timeout = r'.timeout

/-- Exchanges that have gone the same way but for the token. -/
structure Exchange.Alike (s t : String) (x y : Exchange) : Prop where
  replies : x.replies = y.replies
  notes : x.notes = y.notes
  requests : List.Forall₂ (Request.Alike s t) x.requests y.requests

/-- What two clients come to is the same, but for the token in what has been sent. -/
def Agree {α : Type} (s t : String) (a b : α × Exchange) : Prop := a.1 = b.1 ∧ a.2.Alike s t b.2

theorem Agree.elim {α : Type} {s t : String} {a b : α × Exchange} (h : Agree s t a b) :
    ∃ v x y, a = (v, x) ∧ b = (v, y) ∧ x.Alike s t y := by
  obtain ⟨v, x⟩ := a
  obtain ⟨w, y⟩ := b
  obtain ⟨rfl, hx⟩ := h
  exact ⟨v, x, y, rfl, rfl, hx⟩

section alike

variable {s t : String}

theorem AlikeInText.refl (s t : String) (cs : List Char) : AlikeInText s t cs cs := .inl rfl

/-- What stands in front of both texts makes no difference. -/
theorem AlikeInText.append_left {as bs : List Char} (h : AlikeInText s t as bs)
    (front : List Char) : AlikeInText s t (front ++ as) (front ++ bs) := by
  rcases h with rfl | ⟨inner, hopen, rfl, rfl⟩
  · exact .refl s t _
  · refine .inr ⟨front ++ inner, ?_, ?_, ?_⟩
    · have hne {c : Char} (hc : inner.getLast? = some c) :
          (front ++ inner).getLast? = some c := by
        rw [List.getLast?_append, hc]
        rfl
      exact hopen.imp hne hne
    all_goals simp only [withPair, List.append_assoc]

theorem Address.Alike.refl (s t : String) (a : Address) : a.Alike s t a :=
  ⟨rfl, rfl, rfl, rfl, .inl rfl⟩

theorem AlikeInReferer.refl (s t : String) (url : Option String) : AlikeInReferer s t url url := by
  cases url with
  | none => exact .none
  | some u => exact .some (.refl s t u.toList)

theorem Request.Alike.refl (s t : String) (r : Request) : r.Alike s t r :=
  ⟨rfl, .refl s t _, ⟨rfl, rfl, .refl s t _⟩, .refl s t _, rfl, rfl⟩

theorem Exchange.Alike.refl (s t : String) (x : Exchange) : x.Alike s t x :=
  ⟨rfl, rfl, List.forall₂_same.mpr fun r _ => .refl s t r⟩

variable {a b : Address}

theorem Address.Alike.resource (h : a.Alike s t b) : AlikeInText s t a.resource b.resource := by
  unfold Address.resource
  rw [h.path]
  refine AlikeInText.append_left ?_ b.path
  rcases h.query with hq | ⟨front, hopen, ha, hb⟩
  · rw [hq]
    exact .refl s t _
  · rw [ha, hb]
    refine .inr ⟨'?' :: front, ?_, rfl, rfl⟩
    rcases hopen with rfl | hopen
    · exact .inl rfl
    · refine .inr ?_
      rw [List.getLast?_cons, hopen]
      rfl

theorem Address.Alike.origin (h : a.Alike s t b) : a.origin = b.origin := by
  rw [Address.origin, Address.origin, Address.scheme, Address.scheme, h.secure, h.host, h.port]

theorem Address.Alike.text (h : a.Alike s t b) : AlikeInText s t a.text b.text := by
  rw [Address.text, Address.text, h.origin]
  exact h.resource.append_left _

theorem Address.Alike.portNumber (h : a.Alike s t b) : a.portNumber = b.portNumber := by
  rw [Address.portNumber, Address.portNumber, h.port, h.secure]

/-- There is a way to both addresses or to neither. -/
theorem Proxies.route?_alike (proxies : Proxies) (h : a.Alike s t b) :
    Option.Rel (Route.Alike s t) (proxies.route? a) (proxies.route? b) := by
  unfold Proxies.route?
  dsimp only
  rw [h.secure, h.host, h.portNumber]
  cases proxies.find? b.secure b.host with
  | none =>
    refine .some ⟨rfl, rfl, ?_⟩
    simpa only [String.toList_ofList] using h.resource
  | some proxy =>
    dsimp only
    cases proxy.peer? with
    | none => exact .none
    | some peer =>
      refine .some ?_
      dsimp only
      split
      · refine ⟨rfl, rfl, ?_⟩
        simpa only [String.toList_ofList] using h.resource
      · refine ⟨rfl, rfl, ?_⟩
        simpa only [String.toList_ofList] using h.text

/-- Errands that are the same but for the token. -/
structure Client.Errand.Alike (s t : String) (e e' : Errand) : Prop where
  method : e.method = e'.method
  address : e.address.Alike s t e'.address
  referer : AlikeInReferer s t e.referer e'.referer
  body : e.body = e'.body

variable {e e' : Errand}

theorem Client.Errand.Alike.moveTo (h : e.Alike s t e') (how : Redirection)
    (hab : a.Alike s t b) : (e.moveTo how a).Alike s t (e'.moveTo how b) := by
  have hr : AlikeInReferer s t (Errand.refererFor e.address a)
      (Errand.refererFor e'.address b) := by
    unfold Errand.refererFor
    rw [h.address.secure, hab.secure]
    split
    · exact .none
    · refine .some ?_
      simpa only [String.toList_ofList] using h.address.text
  unfold Errand.moveTo
  rw [h.method, h.body]
  dsimp only
  split
  · split
    · exact ⟨rfl, hab, hr, rfl⟩
    · exact ⟨rfl, hab, hr, rfl⟩
  · exact ⟨rfl, hab, hr, rfl⟩
  · exact ⟨rfl, hab, hr, rfl⟩

/-- Because of one reply the same is done next, or nothing. -/
theorem Client.Errand.Alike.next? (h : e.Alike s t e') (left : Nat) (reply : Reply) :
    Option.Rel (Errand.Alike s t) (e.next? left reply) (e'.next? left reply) := by
  cases reply with
  | response | unanswered | interrupted => exact .none
  | redirect how place =>
    unfold Errand.next?
    dsimp only
    split
    · exact .none
    · cases place with
      | other next => exact .some (h.moveTo how (.refl s t next))
      | same => exact .some (h.moveTo how h.address)
      | foreign => exact .none

end alike

section exchange

variable {s t : String} {x y : Exchange}

theorem Exchange.Alike.note (h : x.Alike s t y) (entry : Log.Entry) :
    (x.note entry).Alike s t (y.note entry) :=
  ⟨h.replies, congrArg (· ++ [entry]) h.notes, h.requests⟩

theorem Exchange.Alike.send (h : x.Alike s t y) {r r' : Request} (hr : r.Alike s t r') :
    Agree s t (x.send r) (y.send r') := by
  have hreq := List.rel_append h.requests (.cons hr .nil)
  unfold Exchange.send
  rw [← h.replies]
  cases x.replies with
  | nil => exact ⟨rfl, rfl, h.notes, hreq⟩
  | cons reply rest => exact ⟨rfl, rfl, h.notes, hreq⟩

end exchange

namespace Client

/-- The client of the same service with another token. -/
def withToken (client : Client) (token : String) : Client := { client with token }

/-- The URL for the call is not too long to be sent. -/
def HasShortUrl (client : Client) (call : Call) : Prop :=
  ∀ host port path e, client.base.location = .path (some host) port path →
    client.endpointOf call = .ok e → (Url.origin client.base.scheme host port ++ e.text
      ++ fragmentText client.base.fragment).length ≤ maxUrl

/-- What a request can name is not too long. -/
theorem hasShortUrl_of_names {client : Client} {call : Call} (h : client.names call = true) :
    client.HasShortUrl call := by
  intro host port path e hl he
  obtain ⟨address, route, hw⟩ := names_iff.mp h
  obtain ⟨⟨e', he', ha⟩, -⟩ := way_eq_ok_iff.mp hw
  obtain rfl := Except.ok.inj (he.symm.trans he')
  simp only [address?, hl] at ha
  split at ha
  next hc => exact of_decide_eq_true (Bool.and_eq_true_iff.mp hc).2
  · cases ha

theorem ofSettings_withToken (url : String) (timeout : UInt64) (proxies : Proxies) :
    (∃ e, ∀ token, ofSettings url token timeout proxies = .error e) ∨
    ∃ client : Client, ∀ token,
      ofSettings url token timeout proxies = .ok (client.withToken token) := by
  unfold ofSettings
  cases Url.read url with
  | error fault => exact .inl ⟨_, fun _ => rfl⟩
  | ok base => exact .inr ⟨⟨base, "", timeout, proxies⟩, fun _ => rfl⟩

/-- The endpoint whose query is the one in front and the pair of the token. -/
def endpointWith (path front : List Char) (token : String) : Endpoint :=
  ⟨path, withPair front token⟩

theorem appendPair_token (query : Option (List Char)) : ∃ front, IsOpen front ∧
    ∀ token : String, Url.appendPair query "session_token".toList token.toList =
      withPair front token := by
  have hn : Url.formEncode "session_token".toList ++ ['='] = "session_token=".toList := by
    decide +kernel
  unfold Url.appendPair withPair
  simp only [List.append_assoc, ← hn]
  split
  · exact ⟨[], .inl rfl, fun _ => rfl⟩
  · exact ⟨[], .inl rfl, fun _ => rfl⟩
  next q _ => exact ⟨q ++ ['&'], .inr List.getLast?_concat, fun _ => by simp⟩

variable (client : Client)

/-- Whatever the token is, there is no endpoint for some segments, or there is one with the pair of
the token at its end. -/
theorem endpoint_withToken (segments : List String) :
    (∃ e, ∀ token, (client.withToken token).endpoint segments = .error e) ∨
    ∃ path front, IsOpen front ∧ ∀ token,
      (client.withToken token).endpoint segments = .ok (endpointWith path front token) := by
  cases hl : client.base.location with
  | unread text =>
    refine .inl ⟨.configuration
      ("service URL " ++ unreadText client.base text ++ " cannot be a base"), fun token => ?_⟩
    simp only [endpoint, withToken, hl]
  | path host port path =>
    obtain ⟨front, hf, hq⟩ := appendPair_token client.base.query
    refine .inr ⟨segments.foldl (fun p s => Url.Path.extend p s.toList) (Url.Path.trimmed path),
      front, hf, fun token => ?_⟩
    simp only [endpoint, withToken, hl, hq, endpointWith]

theorem endpointOf_withToken (call : Call) :
    (∃ e, ∀ token, (client.withToken token).endpointOf call = .error e) ∨
    ∃ path front, IsOpen front ∧ ∀ token,
      (client.withToken token).endpointOf call = .ok (endpointWith path front token) := by
  cases call <;> exact client.endpoint_withToken _

variable {client} {s t : String} {x y : Exchange}

theorem agree_settle {e e' : Errand} (he : e.Alike s t e') (operation : String) (left : Nat)
    (h : x.Alike s t y) (reply : Reply) :
    Agree s t (e.settle operation left x reply) (e'.settle operation left y reply) := by
  cases reply with
  | response status bytes complete =>
    unfold Errand.settle
    rw [he.address.path]
    exact ⟨rfl, h.note _⟩
  | redirect | unanswered | interrupted => exact ⟨rfl, h⟩

/-- Errands that differ in the token alone come to the same, wherever the replies refer to. -/
theorem agree_perform (client : Client) (operation : String) (left : Nat) {e e' : Errand}
    (he : e.Alike s t e') (h : x.Alike s t y) :
    Agree s t ((client.withToken s).perform operation left e x)
      ((client.withToken t).perform operation left e' y) := by
  induction left using Nat.strongRecOn generalizing e e' x y with
  | ind left ih =>
    rw [perform_eq, perform_eq]
    have hroute : Option.Rel (Route.Alike s t) ((client.withToken s).proxies.route? e.address)
        ((client.withToken t).proxies.route? e'.address) := client.proxies.route?_alike he.address
    generalize (client.withToken s).proxies.route? e.address = route at hroute ⊢
    generalize (client.withToken t).proxies.route? e'.address = route' at hroute ⊢
    cases hroute with
    | none => exact ⟨rfl, h⟩
    | @some r r' hr =>
      have htold : Request.Alike s t ((client.withToken s).told e r)
          ((client.withToken t).told e' r') :=
        ⟨he.method, he.address, hr, he.referer, he.body, rfl⟩
      obtain ⟨reply, x', y', hx, hy, h'⟩ := (h.send htold).elim
      dsimp only
      rw [hx, hy]
      dsimp only [proceed]
      have hnext := he.next? left reply
      cases hn : e.next? left reply with
      | none =>
        rw [hn] at hnext
        generalize e'.next? left reply = next' at hnext ⊢
        cases hnext
        exact agree_settle he operation left h' reply
      | some next =>
        have hleft := Errand.ne_zero_of_next? hn
        rw [hn] at hnext
        generalize e'.next? left reply = next' at hnext ⊢
        cases hnext with
        | some hnext => exact ih (left - 1) (by omega) hnext h'

/-- Of two short URLs a request can name both or neither. -/
theorem address?_alike {call : Call} {path front : List Char} (hf : IsOpen front)
    (he : ∀ token, (client.withToken token).endpointOf call = .ok (endpointWith path front token))
    (hs : (client.withToken s).HasShortUrl call) (ht : (client.withToken t).HasShortUrl call) :
    Option.Rel (Address.Alike s t)
      ((client.withToken s).address? (endpointWith path front s))
      ((client.withToken t).address? (endpointWith path front t)) := by
  unfold address?
  dsimp only [withToken]
  split
  next host port path' hl =>
    have hs := hs host port path' _ hl (he s)
    have ht := ht host port path' _ hl (he t)
    simp only [withToken] at hs ht
    have hhttp (token : String) : (client.withToken token).isHttp = client.isHttp := rfl
    have hhttps (token : String) : (client.withToken token).isHttps = client.isHttps := rfl
    simp only [withToken] at hhttp hhttps
    simp only [hs, ht, hhttp, hhttps, decide_true, Bool.and_true]
    split
    · exact .some ⟨rfl, rfl, rfl, rfl, .inr ⟨front, hf, rfl, rfl⟩⟩
    · exact .none
  · exact .none

/-- A call is answered in the same way whatever the token is, if its URL has room for that. -/
theorem agree_answer {call : Call} (hs : (client.withToken s).HasShortUrl call)
    (ht : (client.withToken t).HasShortUrl call) (h : x.Alike s t y) :
    Agree s t ((client.withToken s).answer call x) ((client.withToken t).answer call y) := by
  rw [answer_eq, answer_eq]
  unfold request send
  rcases client.endpointOf_withToken call with ⟨e, he⟩ | ⟨path, front, hf, he⟩
  · rw [he, he]
    exact ⟨rfl, h⟩
  · have haddress := address?_alike hf he hs ht
    rw [he, he]
    dsimp only
    generalize (client.withToken s).address? (endpointWith path front s) = a at haddress ⊢
    generalize (client.withToken t).address? (endpointWith path front t) = b at haddress ⊢
    cases haddress with
    | none => exact ⟨rfl, h⟩
    | @some a b hab =>
      have herrand : Errand.Alike s t ⟨call.method, a, none, call.body⟩
        ⟨call.method, b, none, call.body⟩ := ⟨rfl, hab, .none, rfl⟩
      obtain ⟨sent, x', y', hxs, hys, hx⟩ :=
        (agree_perform client call.operation maxRedirects herrand h).elim
      simp only [hxs, hys]
      cases sent <;> exact ⟨rfl, hx⟩

end Client

end Http

open Http (Client Exchange Agree)

variable {client : Client} {s t : String} {x y : Exchange}

namespace Plan

variable {α : Type}

/-- The URLs of the calls of a run are not too long to be sent. -/
def HasShortUrls (p : Plan α) (client : Client) (x : Exchange) : Prop :=
  ∀ turn ∈ p.turns client.service x, client.HasShortUrl turn.call

theorem HasShortUrls.call {call : Call} {next : call.Answer → Plan α}
    (h : (Plan.ask call next).HasShortUrls client x) : client.HasShortUrl call := by
  obtain ⟨turn, ht, rfl⟩ := exists_turn_of_ask client.service call next x
  exact h turn ht

theorem HasShortUrls.next {call : Call} {next : call.Answer → Plan α} {a : call.Answer}
    (h : (Plan.ask call next).HasShortUrls client x)
    (ha : client.service.answer call x = (.ok a, y)) : (next a).HasShortUrls client y := by
  intro turn ht
  refine h turn ?_
  rw [turns_ask_ok ha]
  exact List.mem_cons_of_mem _ ht

/-- A plan is run in the same way, call after call. -/
theorem agree_run (p : Plan α) (hs : p.HasShortUrls (client.withToken s) x)
    (ht : p.HasShortUrls (client.withToken t) y) (h : x.Alike s t y) :
    Agree s t (p.run (client.withToken s).service x) (p.run (client.withToken t).service y) := by
  induction p generalizing x y with
  | done a => exact ⟨rfl, h⟩
  | fail e => exact ⟨rfl, h⟩
  | note entry rest ih => exact ih hs ht (h.note entry)
  | ask call next ih =>
    obtain ⟨a, x', y', hx, hy, h'⟩ := (Client.agree_answer hs.call ht.call h).elim
    cases a with
    | error e =>
      rw [run_ask_error hx, run_ask_error hy]
      exact ⟨rfl, h'⟩
    | ok a =>
      rw [run_ask_ok hx, run_ask_ok hy]
      exact ih a (hs.next hx) (ht.next hy) h'

end Plan

/-- A command does and prints the same. -/
theorem Command.agree_run (c : Command) (room : Option Nat)
    (hs : c.plan.HasShortUrls (client.withToken s) x)
    (ht : c.plan.HasShortUrls (client.withToken t) y)
    (h : x.Alike s t y) :
    (c.run (client.withToken s).service room x).1 = (c.run (client.withToken t).service room y).1 ∧
    Agree s t (c.run (client.withToken s).service room x).2
      (c.run (client.withToken t).service room y).2 := by
  obtain ⟨done, x', y', hx, hy, h'⟩ := (c.plan.agree_run hs ht h).elim
  unfold Command.run
  rw [hx, hy]
  cases done <;> exact ⟨rfl, rfl, h'⟩

end PortShare
