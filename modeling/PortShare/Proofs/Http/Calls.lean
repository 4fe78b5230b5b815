import PortShare.Http.Client
import PortShare.Proofs.Turns

/-! Calls over HTTP. A call is one request, made from the ids in it and from nothing else, and its
answer follows from the one reply. Where a reply refers to another place, one more request follows
for the same; a call that no request can be made for is refused unsent. -/

namespace PortShare

open Http (Address Client Exchange Method Place Redirection Reply Route)

/-- The reply refers to no other place. -/
def Http.Reply.isFinal : Reply → Bool
  | .redirect .. => false
  | .response .. | .unanswered | .interrupted => true

namespace Call

def method : Call → Method
  | .resolve _ | .list _ => .get
  | .create .. => .post
  | .update .. => .put
  | .delete .. => .delete

def body : Call → Option String
  | .resolve _ | .list _ | .delete .. => none
  | .create _ m | .update _ _ m => some m.toJson.render

/-- The answer that a reply to the call's request means. -/
def judge : (call : Call) → Client.Response → Except Failure call.Answer
  | .resolve name, r =>
    r.decode "find environment" readEnvironments >>= Client.pick name
  | .list _, r => r.decode "list devurls" readDevUrls
  | .create .., r => r.accepted "insert devurl"
  | .update .., r => r.accepted "update devurl"
  | .delete .., r => r.accepted "delete devurl"

/-- The answer that whatever comes back means, if no other place is asked because of it. -/
def answerTo (call : Call) : Reply → Except Failure call.Answer
  | .response status bytes complete => call.judge ⟨status, if complete then some bytes else none⟩
  | .redirect .. => .error (.remoteUnavailable call.operation "error following redirect")
  | .unanswered => .error (.remoteUnavailable call.operation "error sending request")
  | .interrupted => .error .cancelled

theorem method_ne_get_iff {call : Call} : call.method ≠ .get ↔ call.isMutation = true := by
  cases call <;> simp [method, isMutation]

end Call

namespace Http.Client

variable {client : Client}

def endpointOf (client : Client) : Call → Except Failure Endpoint
  | .resolve _ => client.environmentsEndpoint
  | .list id | .create id _ => client.devurlsEndpoint id none
  | .update id url _ | .delete id url => client.devurlsEndpoint id (some url)

theorem answer_eq (client : Client) (call : Call) (x : Exchange) :
    client.answer call x = client.request call.operation call.method (client.endpointOf call)
      call.body call.judge x := by
  cases call <;> rfl

/-- The URL of the service names a host, so that there is one below it for every call. -/
def HasHost (client : Client) : Prop :=
  ∃ host port path, client.base.location = .path (some host) port path

theorem HasHost.endpoint (h : client.HasHost) (segments : List String) :
    ∃ e, client.endpoint segments = .ok e := by
  obtain ⟨host, port, path, hl⟩ := h
  simp only [Client.endpoint, hl]
  exact ⟨_, rfl⟩

theorem HasHost.endpointOf (h : client.HasHost) (call : Call) :
    ∃ e, client.endpointOf call = .ok e := by
  cases call <;> exact h.endpoint _

section way

/-- The answer of a call whose URL no request can name. -/
def unnamed (call : Call) : Except Failure call.Answer :=
  .error (.remoteUnavailable call.operation "builder error")

/-- The answer of a call to whose URL there is no way. -/
def unrouted (call : Call) : Except Failure call.Answer :=
  .error (.remoteUnavailable call.operation "error sending request")

/-- The address of a call and the way there, or why no request can be made for it. -/
def way (client : Client) (call : Call) : Except Failure (Address × Route) :=
  match client.endpointOf call with
  | .error e => .error e
  | .ok e =>
    match client.address? e with
    | none => .error (.remoteUnavailable call.operation "builder error")
    | some address =>
      match client.proxies.route? address with
      | none => .error (.remoteUnavailable call.operation "error sending request")
      | some route => .ok (address, route)

/-- Can a request be made for the call? -/
def names (client : Client) (call : Call) : Bool := (client.way call).isOk

theorem names_iff {call : Call} :
    client.names call = true ↔ ∃ address route, client.way call = .ok (address, route) := by
  unfold names
  rcases client.way call with e | ⟨address, route⟩ <;> simp [Except.isOk, Except.toBool]

theorem not_names_iff {call : Call} :
    client.names call = false ↔ ∃ e, client.way call = .error e := by
  unfold names
  rcases client.way call with e | ⟨address, route⟩ <;> simp [Except.isOk, Except.toBool]

theorem way_eq_ok_iff {call : Call} {address : Address} {route : Route} :
    client.way call = .ok (address, route) ↔ (∃ e, client.endpointOf call = .ok e ∧
      client.address? e = some address) ∧ client.proxies.route? address = some route := by
  unfold way
  cases client.endpointOf call with
  | error e => simp
  | ok e =>
    simp only [Except.ok.injEq, exists_eq_left']
    cases client.address? e with
    | none => simp
    | some a =>
      simp only [Option.some.injEq]
      constructor
      · intro h
        split at h
        · cases h
        next hr =>
          cases h
          exact ⟨rfl, hr⟩
      · rintro ⟨rfl, hr⟩
        rw [hr]

/-- The address of an endpoint is at the host of the service. -/
theorem address?_eq_some {e : Endpoint} {address : Address} (h : client.address? e = some address) :
    ∃ host port path, client.base.location = .path (some host) port path ∧
      address = ⟨client.isHttps, host, port, e.path, some e.query⟩ ∧
      address.scheme = client.base.scheme := by
  unfold address? at h
  split at h
  next host port path hl =>
    split at h
    next hc =>
      cases h
      refine ⟨host, port, path, hl, rfl, ?_⟩
      simp only [Bool.and_eq_true, Bool.or_eq_true] at hc
      unfold Address.scheme
      cases hs : client.isHttps with
      | true => exact (beq_iff_eq.mp hs).symm
      | false =>
        rw [hs] at hc
        exact (beq_iff_eq.mp (hc.1.1.resolve_right Bool.false_ne_true)).symm
    · cases h
  · cases h

/-- The way to an address names the path and the query there, or the whole URL. -/
theorem target_of_route? {proxies : Proxies} {address : Address}
    {route : Route} (h : proxies.route? address = some route) :
    route.target = String.ofList address.resource ∨ route.target = String.ofList address.text := by
  unfold Proxies.route? at h
  dsimp only at h
  split at h
  · cases h
    exact .inl rfl
  · obtain ⟨peer, -, rfl⟩ := Option.map_eq_some_iff.mp h
    split
    · exact .inl rfl
    · exact .inr rfl

/-- Where the service has a host, a call that no request can be made for is refused in two ways. -/
theorem HasHost.way_error (h : client.HasHost) {call : Call} {e : Failure}
    (hw : client.way call = .error e) :
    .error e = unnamed call ∨ .error e = unrouted call := by
  obtain ⟨endpoint, he⟩ := h.endpointOf call
  unfold way at hw
  rw [he] at hw
  dsimp only at hw
  split at hw
  · exact .inl (congrArg Except.error (Except.error.inj hw).symm)
  · split at hw
    · exact .inr (congrArg Except.error (Except.error.inj hw).symm)
    · cases hw

/-- The request is the one for the call, at the URL that its ids make. -/
structure Carries (client : Client) (r : Request) (call : Call) : Prop where
  method : r.method = call.method
  body : r.body = call.body
  place : ∃ e, client.endpointOf call = .ok e ∧ client.address? e = some r.address
  route : client.proxies.route? r.address = some r.route
  referer : r.referer = none
  timeout : r.timeout = client.timeout

/-- A call that no request can be made for leaves no trace. -/
theorem answer_of_way_error {call : Call} {e : Failure} (h : client.way call = .error e)
    (x : Exchange) : client.answer call x = (.error e, x) := by
  unfold way at h
  rw [answer_eq]
  unfold request
  cases he : client.endpointOf call with
  | error e' =>
    rw [he] at h
    cases h
    rfl
  | ok endpoint =>
    rw [he] at h
    unfold send
    dsimp only at h ⊢
    cases ha : client.address? endpoint with
    | none =>
      rw [ha] at h
      cases h
      rfl
    | some address =>
      rw [ha] at h
      dsimp only at h ⊢
      unfold perform
      split at h
      next hr =>
        cases h
        simp only [hr]
      · cases h

end way

section replies

/-- What comes back for the `n`th request; once there are no replies it is an empty 500. -/
def replyAt (replies : List Reply) (n : Nat) : Reply := replies.getD n (.response 500 [] true)

/-- What comes back is one of the replies, or the one that is given once there are none. -/
theorem mem_of_replyAt {replies : List Reply} {n : Nat} {reply : Reply}
    (h : replyAt replies n = reply) (hne : reply ≠ .response 500 [] true) : reply ∈ replies := by
  rw [replyAt, List.getD_eq_getElem?_getD] at h
  cases hr : replies[n]? with
  | none =>
    rw [hr] at h
    exact absurd h.symm hne
  | some found =>
    rw [hr] at h
    exact h ▸ List.mem_of_getElem? hr

theorem isFinal_replyAt {replies : List Reply} (h : ∀ reply ∈ replies, reply.isFinal = true)
    (n : Nat) : (replyAt replies n).isFinal = true := by
  rw [replyAt, List.getD_eq_getElem?_getD]
  cases hr : replies[n]? with
  | none => rfl
  | some reply => exact h reply (List.mem_of_getElem? hr)

theorem send_eq (r : Request) {x : Exchange} {replies : List Reply} {n : Nat}
    (h : x.replies = replies.drop n) :
    (x.send r).1 = replyAt replies n ∧ (x.send r).2.requests = x.requests ++ [r] ∧
      (x.send r).2.replies = replies.drop (n + 1) := by
  rw [replyAt, List.getD_eq_getElem?_getD, ← List.head?_drop, ← List.tail_drop, ← h]
  cases hr : x.replies with
  | nil => simp [Exchange.send, hr]
  | cons reply rest => simp [Exchange.send, hr]

end replies

/-- A request made behind another: for the same, or for data where something else was asked. -/
structure Resumes (r first : Request) : Prop where
  asks : r.method = first.method ∧ r.body = first.body ∨ r.method = .get ∧ r.body = none
  timeout : r.timeout = first.timeout

theorem Resumes.trans {r r' r'' : Request} (h : Resumes r r') (h' : Resumes r' r'') :
    Resumes r r'' := by
  refine ⟨?_, h.timeout.trans h'.timeout⟩
  rcases h.asks with ⟨hm, hb⟩ | hget
  · rw [hm, hb]
    exact h'.asks
  · exact .inr hget

/-- What is sent between two states of an exchange: one request, and behind it one more for each of
the replies but the last, as these refer to other places. -/
structure Sends (x : Exchange) (first : Request) (more : List Request) (replies : List Reply)
    (n : Nat) (y : Exchange) : Prop where
  requests : y.requests = x.requests ++ first :: more
  left : y.replies = replies.drop (n + more.length + 1)
  resumes : ∀ r ∈ more, Resumes r first
  referred : ∀ k < more.length, (replyAt replies (n + k)).isFinal = false

/-- A final reply is the only one that is taken. -/
theorem Sends.eq_nil {x y : Exchange} {first : Request} {more : List Request}
    {replies : List Reply} {n : Nat} (h : Sends x first more replies n y)
    (hf : (replyAt replies n).isFinal = true) : more = [] := by
  cases more with
  | nil => rfl
  | cons r more =>
    have hn := h.referred 0 (Nat.zero_lt_succ _)
    rw [Nat.add_zero, hf] at hn
    cases hn

section perform

variable {operation : String} {left : Nat} {errand : Errand} {x y : Exchange} {route : Route}

/-- What is sent for an errand on its way. -/
def told (client : Client) (errand : Errand) (route : Route) : Request :=
  ⟨errand.method, errand.address, route, errand.referer, errand.body, client.timeout⟩

/-- What a reply makes of an errand, if no other place is asked because of it. -/
def ended (operation : String) : Reply → Except Failure Response
  | .response status bytes complete => .ok ⟨status, if complete then some bytes else none⟩
  | .redirect .. => .error (.remoteUnavailable operation "error following redirect")
  | .unanswered => .error (.remoteUnavailable operation "error sending request")
  | .interrupted => .error .cancelled

/-- What is said if the place that a reply refers to is not asked: the client was sent on too often,
it cannot speak to the place, or there is no way there. -/
def strays : List String :=
  ["error following redirect", "builder error", "error sending request"]

/-- The answer is what the reply means, or the place that the reply refers to is not asked. -/
def Ends (operation : String) (reply : Reply) (answer : Except Failure Response) : Prop :=
  (reply.isFinal = true → answer = ended operation reply) ∧
  (reply.isFinal = false → ∃ text ∈ strays, answer = .error (.remoteUnavailable operation text))

/-- The errand that is done next because of a reply, if one is. -/
def Errand.next? (e : Errand) (left : Nat) : Reply → Option Errand
  | .redirect how place => if left = 0 then none else e.redirect? how place
  | .response .. | .unanswered | .interrupted => none

/-- What comes of an errand that ends with a reply. -/
def Errand.settle (e : Errand) (operation : String) (left : Nat) (x : Exchange) :
    Reply → Except Failure Response × Exchange
  | .response status bytes complete =>
    (ended operation (.response status bytes complete), x.note ⟨.debug,
      operation ++ " " ++ String.ofList e.address.path ++ " -> " ++ statusText status⟩)
  | .redirect .. =>
    let text := if left = 0 then "error following redirect" else "builder error"
    (.error (.remoteUnavailable operation text), x)
  | .unanswered => (ended operation .unanswered, x)
  | .interrupted => (ended operation .interrupted, x)

/-- What comes of an errand behind its reply: another errand, or the end. -/
def proceed (client : Client) (operation : String) (left : Nat) (errand : Errand)
    (sent : Reply × Exchange) : Except Failure Response × Exchange :=
  match errand.next? left sent.1 with
  | some next => client.perform operation (left - 1) next sent.2
  | none => errand.settle operation left sent.2 sent.1

/-- An errand ends where there is no way to its address, and with its reply otherwise, if no other
is done because of that. -/
theorem perform_eq (client : Client) (operation : String) (left : Nat) (errand : Errand)
    (x : Exchange) : client.perform operation left errand x =
      match client.proxies.route? errand.address with
      | none => (ended operation .unanswered, x)
      | some route => client.proceed operation left errand (x.send (client.told errand route)) := by
  conv =>
    lhs
    unfold perform
  cases client.proxies.route? errand.address with
  | none => rfl
  | some route =>
    simp only [told, proceed]
    generalize x.send _ = sent
    obtain ⟨reply, y⟩ := sent
    cases reply with
    | redirect how place =>
      cases left with
      | zero => rfl
      | succ left =>
        simp only [Errand.next?, Nat.add_one_ne_zero, if_false, Nat.add_sub_cancel]
        cases errand.redirect? how place <;> rfl
    | response | unanswered | interrupted => rfl

theorem Errand.ne_zero_of_next? {e next : Errand} {left : Nat} {reply : Reply}
    (h : e.next? left reply = some next) : left ≠ 0 := by
  rintro rfl
  cases reply <;> cases h

theorem moveTo_asks (e : Errand) (how : Redirection) (next : Address) :
    (e.moveTo how next).method = e.method ∧ (e.moveTo how next).body = e.body ∨
      (e.moveTo how next).method = .get ∧ (e.moveTo how next).body = none := by
  unfold Errand.moveTo
  dsimp only
  split
  · split
    · exact .inr ⟨rfl, rfl⟩
    · exact .inl ⟨rfl, rfl⟩
  · exact .inr ⟨rfl, rfl⟩
  · exact .inl ⟨rfl, rfl⟩

theorem isFinal_of_next? {reply : Reply} {next : Errand} (h : errand.next? left reply = some next) :
    reply.isFinal = false := by
  cases reply with
  | redirect => rfl
  | response | unanswered | interrupted => cases h

theorem resumes_of_next? {reply : Reply} {next : Errand} (h : errand.next? left reply = some next)
    (route route' : Route) : Resumes (client.told next route') (client.told errand route) := by
  cases reply with
  | response | unanswered | interrupted => cases h
  | redirect how place =>
    refine ⟨?_, rfl⟩
    simp only [Errand.next?] at h
    split at h
    · cases h
    · cases place with
      | foreign => cases h
      | same | other =>
        obtain rfl := Option.some.inj h
        exact moveTo_asks _ _ _

theorem ends_settle (errand : Errand) (operation : String) (left : Nat) (x : Exchange)
    (reply : Reply) : Ends operation reply (errand.settle operation left x reply).1 := by
  cases reply with
  | redirect how place =>
    refine ⟨nofun, fun _ => ⟨_, ?_, rfl⟩⟩
    split <;> simp [strays]
  | response | unanswered | interrupted => exact ⟨fun _ => rfl, nofun⟩

theorem replies_settle (errand : Errand) (operation : String) (left : Nat) (x : Exchange)
    (reply : Reply) : (errand.settle operation left x reply).2.requests = x.requests ∧
      (errand.settle operation left x reply).2.replies = x.replies := by
  cases reply <;> exact ⟨rfl, rfl⟩

/-- What an errand comes to whose one reply is the last. -/
theorem course_of_last {done : Except Failure Response × Exchange} {replies : List Reply} {n : Nat}
    {first : Request} (hx : x.replies = replies.drop n)
    (hq : done.2.requests = (x.send first).2.requests)
    (hr : done.2.replies = (x.send first).2.replies) (he : Ends operation (x.send first).1 done.1) :
    Sends x first [] replies n done.2 ∧
      Ends operation (replyAt replies (n + ([] : List Request).length)) done.1 := by
  obtain ⟨hreply, hreqs, hrest⟩ := send_eq first hx
  refine ⟨⟨hq.trans hreqs, hr.trans hrest, List.forall_mem_nil _,
    fun k hk => absurd hk (Nat.not_lt_zero k)⟩, ?_⟩
  rwa [List.length_nil, Nat.add_zero, ← hreply]

/-- How an errand goes whose request is sent: a reply that refers to another place is the last one,
or has one more request made. -/
theorem perform_course (operation : String) (left : Nat)
    (hr : client.proxies.route? errand.address = some route) {replies : List Reply} {n : Nat}
    (hx : x.replies = replies.drop n) :
    ∃ more, more.length ≤ left ∧
      Sends x (client.told errand route) more replies n
        (client.perform operation left errand x).2 ∧
      Ends operation (replyAt replies (n + more.length))
        (client.perform operation left errand x).1 := by
  induction left using Nat.strongRecOn generalizing errand route x n with
  | ind left ih =>
    obtain ⟨hreply, hreqs, hrest⟩ := send_eq (client.told errand route) hx
    rw [perform_eq, hr]
    dsimp only [proceed]
    cases hn : errand.next? left (x.send (client.told errand route)).1 with
    | none =>
      dsimp only
      obtain ⟨hq, hrep⟩ := replies_settle errand operation left
        (x.send (client.told errand route)).2 (x.send (client.told errand route)).1
      exact ⟨[], Nat.zero_le _, course_of_last hx hq hrep (ends_settle errand operation left _ _)⟩
    | some next =>
      dsimp only
      have hf := isFinal_of_next? hn
      have hleft := Errand.ne_zero_of_next? hn
      cases hr' : client.proxies.route? next.address with
      | none =>
        rw [perform_eq, hr']
        exact ⟨[], Nat.zero_le _, course_of_last hx rfl rfl
          ⟨fun ht => absurd (hf.symm.trans ht) nofun, fun _ => ⟨_, by simp [strays], rfl⟩⟩⟩
      | some route' =>
        obtain ⟨more, hlen, hsends, hends⟩ := ih (left - 1) (by omega) hr' hrest
        have hmore : Resumes (client.told next route') (client.told errand route) :=
          resumes_of_next? hn route route'
        refine ⟨client.told next route' :: more, ?_, ⟨?_, ?_, ?_, ?_⟩, ?_⟩
        · rw [List.length_cons]
          omega
        · rw [hsends.requests, hreqs, List.append_assoc]
          rfl
        · rw [hsends.left, List.length_cons, Nat.add_right_comm n 1, Nat.add_assoc n]
        · rw [List.forall_mem_cons]
          exact ⟨hmore, fun r hm => (hsends.resumes r hm).trans hmore⟩
        · intro k hk
          cases k with
          | zero => rwa [Nat.add_zero, ← hreply]
          | succ k =>
            have hk' := hsends.referred k (Nat.lt_of_succ_lt_succ hk)
            rwa [Nat.add_assoc, Nat.add_comm 1 k] at hk'
        · rw [List.length_cons, Nat.add_comm more.length 1, ← Nat.add_assoc]
          exact hends

end perform

section answer

variable {call : Call} {x : Exchange} {replies : List Reply} {n : Nat}

/-- The answer is what the reply means, or the place that the reply refers to is not asked. -/
def Settles (call : Call) (reply : Reply) (answer : Except Failure call.Answer) : Prop :=
  (reply.isFinal = true → answer = call.answerTo reply) ∧
  (reply.isFinal = false →
    ∃ text ∈ strays, answer = .error (.remoteUnavailable call.operation text))

theorem settles_of_ends {reply : Reply} {done : Except Failure Response}
    (h : Ends call.operation reply done) : Settles call reply (done >>= call.judge) := by
  refine ⟨fun hf => ?_, fun hf => ?_⟩
  · rw [h.1 hf]
    cases reply <;> rfl
  · obtain ⟨text, ht, rfl⟩ := h.2 hf
    exact ⟨text, ht, rfl⟩

theorem Settles.cases {reply : Reply} {answer : Except Failure call.Answer}
    (h : Settles call reply answer) : reply.isFinal = true ∧ answer = call.answerTo reply ∨
      reply.isFinal = false ∧
        ∃ text ∈ strays, answer = .error (.remoteUnavailable call.operation text) := by
  cases hf : reply.isFinal with
  | true => exact .inl ⟨rfl, h.1 hf⟩
  | false => exact .inr ⟨rfl, h.2 hf⟩

/-- A call is an errand to its address, and its answer is the judgement of what comes back. -/
theorem answer_of_way {address : Address} {route : Route}
    (h : client.way call = .ok (address, route)) (x : Exchange) :
    let done := client.perform call.operation maxRedirects ⟨call.method, address, none, call.body⟩ x
    client.answer call x = (done.1 >>= call.judge, done.2) := by
  obtain ⟨⟨e, he, ha⟩, -⟩ := way_eq_ok_iff.mp h
  rw [answer_eq]
  unfold request send
  simp only [he, ha]
  rcases client.perform call.operation maxRedirects ⟨call.method, address, none, call.body⟩ x with
    ⟨e | response, y⟩ <;> rfl

/-- How a call goes that a request can be made for, whatever comes back. -/
theorem answer_course (h : client.names call = true) (hx : x.replies = replies.drop n) :
    ∃ first more, client.Carries first call ∧ more.length ≤ maxRedirects ∧
      Sends x first more replies n (client.answer call x).2 ∧
      Settles call (replyAt replies (n + more.length)) (client.answer call x).1 := by
  obtain ⟨address, route, hway⟩ := names_iff.mp h
  obtain ⟨hplace, hr⟩ := way_eq_ok_iff.mp hway
  let errand : Errand := ⟨call.method, address, none, call.body⟩
  have hr' : client.proxies.route? errand.address = some route := hr
  obtain ⟨more, hlen, hsends, hends⟩ := perform_course call.operation maxRedirects hr' hx
  rw [answer_of_way hway]
  exact ⟨client.told errand route, more, ⟨rfl, rfl, hplace, hr, rfl, rfl⟩, hlen, hsends,
    settles_of_ends hends⟩

/-- A call that can be named is one request, and its answer is what the next reply means. -/
theorem answer_of_names (h : client.names call = true) (hx : x.replies = replies.drop n)
    (hf : (replyAt replies n).isFinal = true) :
    (client.answer call x).1 = call.answerTo (replyAt replies n) ∧
      (∃ r, client.Carries r call ∧ (client.answer call x).2.requests = x.requests ++ [r]) ∧
      (client.answer call x).2.replies = replies.drop (n + 1) := by
  obtain ⟨first, more, hc, -, hsends, ha⟩ := answer_course h hx
  obtain rfl := hsends.eq_nil hf
  rw [List.length_nil, Nat.add_zero] at ha
  exact ⟨ha.1 hf, ⟨first, hc, hsends.requests⟩, hsends.left⟩

/-- How a call goes: it is refused and nothing is sent, or requests are sent and the last reply that
is taken settles it. -/
inductive Passage (client : Client) (call : Call) (x : Exchange) :
    Except Failure call.Answer × Exchange → Prop where
  | unsent {e : Failure} : client.way call = .error e → Passage client call x (.error e, x)
  | sent {first : Request} {more : List Request} {y : Exchange}
      {answer : Except Failure call.Answer} : client.Carries first call →
      more.length ≤ maxRedirects → Sends x first more x.replies 0 y →
      Settles call (replyAt x.replies more.length) answer → Passage client call x (answer, y)

theorem passage (client : Client) (call : Call) (x : Exchange) :
    client.Passage call x (client.answer call x) := by
  cases hn : client.names call with
  | false =>
    obtain ⟨e, he⟩ := not_names_iff.mp hn
    rw [answer_of_way_error he]
    exact .unsent he
  | true =>
    obtain ⟨first, more, hc, hlen, hsends, ha⟩ :=
      answer_course hn (x := x) (n := 0) List.drop_zero.symm
    rw [Nat.zero_add] at ha
    exact .sent hc hlen hsends ha

/-- What is sent for a call: the request for it, and others for the same, or for data, if a reply
refers to another place. -/
structure IsSent (client : Client) (call : Call) (x : Exchange) (sent : List Request) : Prop where
  requests : (client.answer call x).2.requests = x.requests ++ sent
  first : ∀ r, sent.head? = some r → client.Carries r call
  asks : ∀ r ∈ sent, r.method = call.method ∧ r.body = call.body ∨ r.method = .get ∧ r.body = none
  timeout : ∀ r ∈ sent, r.timeout = client.timeout
  alone : (replyAt x.replies 0).isFinal = true → sent.length ≤ 1

theorem exists_isSent (client : Client) (call : Call) (x : Exchange) :
    ∃ sent, client.IsSent call x sent := by
  have hpassage := client.passage call x
  generalize hanswered : client.answer call x = answered at hpassage
  cases hpassage with
  | unsent _ =>
    have hnone : (client.answer call x).2.requests = x.requests ++ [] := by
      rw [hanswered, List.append_nil]
    exact ⟨[], hnone, fun r hr => (by cases hr), List.forall_mem_nil _, List.forall_mem_nil _,
      fun _ => Nat.zero_le _⟩
  | @sent first more y a hc _ hsends _ =>
    have hasks (r : Request) (hr : r ∈ more) : r.method = call.method ∧ r.body = call.body ∨
        r.method = .get ∧ r.body = none := by
      rw [← hc.method, ← hc.body]
      exact (hsends.resumes r hr).asks
    have htimeout (r : Request) (hr : r ∈ more) : r.timeout = client.timeout :=
      (hsends.resumes r hr).timeout.trans hc.timeout
    refine ⟨first :: more, ?_, fun r hr => Option.some.inj hr ▸ hc,
      List.forall_mem_cons.mpr ⟨.inl ⟨hc.method, hc.body⟩, hasks⟩,
      List.forall_mem_cons.mpr ⟨hc.timeout, htimeout⟩, fun hf => ?_⟩
    · rw [hanswered]
      exact hsends.requests
    · rw [hsends.eq_nil hf]
      exact Nat.le_refl 1

/-- With a reply that refers to no other place all that is sent for a call is the request for it. -/
theorem IsSent.carries {sent : List Request} (h : client.IsSent call x sent)
    (hf : (replyAt x.replies 0).isFinal = true) : ∀ r ∈ sent, client.Carries r call := by
  intro r hr
  have hlen := h.alone hf
  have hfirst := h.first r
  clear h
  cases sent with
  | nil => cases hr
  | cons s rest =>
    have hrest : rest.length ≤ 0 := Nat.le_of_succ_le_succ hlen
    obtain rfl : rest = [] := List.length_eq_zero_iff.mp (Nat.le_zero.mp hrest)
    exact hfirst (congrArg some (List.mem_singleton.mp hr).symm)

end answer

end Http.Client

end PortShare
