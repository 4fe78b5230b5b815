import PortShare.Proofs.Failure
import PortShare.Proofs.Http.Calls

/-! What a command over HTTP comes to. If nobody interrupts it, it fails by a typed field or by the
service and in no other way; what was noted down before it began makes no difference to it. -/

namespace PortShare

open Http (Client Exchange Reply)

namespace Http

namespace Exchange

/-- Nobody stops the program while it waits for one of the replies that are to come. -/
def Uninterrupted (x : Exchange) : Prop := .interrupted ∉ x.replies

/-- The exchange with notes that were made before it began. -/
def behind (notes : List Log.Entry) (x : Exchange) : Exchange :=
  { x with notes := notes ++ x.notes }

theorem send_behind (notes : List Log.Entry) (r : Request) (x : Exchange) :
    (x.behind notes).send r = ((x.send r).1, (x.send r).2.behind notes) := by
  unfold send
  cases hr : x.replies <;> simp only [behind, hr]

theorem note_behind (notes : List Log.Entry) (entry : Log.Entry) (x : Exchange) :
    (x.behind notes).note entry = (x.note entry).behind notes := by
  simp only [note, behind, List.append_assoc]

end Exchange

namespace Client

section failures

variable {client : Client} {e : Failure}

theorem isRemote_failure (r : Response) (operation : String) : (r.failure operation).IsRemote := by
  unfold Response.failure
  dsimp only
  split <;> exact .unavailable _ _

theorem isRemote_of_decode {α : Type} {r : Response} {operation : String}
    {read : Bytes → Except Json.Problem α} (h : r.decode operation read = .error e) :
    e.IsRemote := by
  unfold Response.decode at h
  split at h
  · split at h
    · exact Except.error.inj h ▸ .unavailable _ _
    · split at h
      · cases h
      · exact Except.error.inj h ▸ .malformed _ _
  · exact Except.error.inj h ▸ isRemote_failure r operation

theorem isRemote_of_accepted {r : Response} {operation : String}
    (h : r.accepted operation = .error e) : e.IsRemote := by
  unfold Response.accepted at h
  split at h
  · cases h
  · exact Except.error.inj h ▸ isRemote_failure r operation

theorem isRemote_of_pick {name : String} {found : List Environment}
    (h : pick name found = .error e) : e.IsRemote := by
  unfold pick at h
  split at h
  · cases h
  · exact Except.error.inj h ▸ .environment name

theorem isRemote_of_judge {call : Call} {r : Response} (h : call.judge r = .error e) :
    e.IsRemote := by
  cases call with
  | resolve name =>
    cases hd : r.decode "find environment" readEnvironments with
    | error e' =>
      rw [Call.judge, hd] at h
      exact Except.error.inj h ▸ isRemote_of_decode hd
    | ok found =>
      rw [Call.judge, hd] at h
      exact isRemote_of_pick h
  | list id => exact isRemote_of_decode h
  | create | update | delete => exact isRemote_of_accepted h

theorem isRemote_of_answerTo {call : Call} {reply : Reply} (hn : reply ≠ .interrupted)
    (h : call.answerTo reply = .error e) : e.IsRemote := by
  cases reply with
  | response status bytes complete => exact isRemote_of_judge h
  | redirect | unanswered => exact Except.error.inj h ▸ .unavailable _ _
  | interrupted => exact absurd rfl hn

/-- A call fails by the service, or because it is interrupted. -/
theorem error_of_answer (hu : client.HasHost) {call : Call} {x : Exchange}
    (h : (client.answer call x).1 = .error e) :
    e.IsRemote ∨ e = .cancelled ∧ .interrupted ∈ x.replies := by
  have hpassage := client.passage call x
  generalize client.answer call x = answered at h hpassage
  cases hpassage with
  | unsent he =>
    obtain rfl := Except.error.inj h
    rcases hu.way_error he with he | he <;> exact .inl (Except.error.inj he ▸ .unavailable _ _)
  | @sent first more _ _ _ _ _ hsettles =>
    rcases hsettles.cases with ⟨-, rfl⟩ | ⟨-, text, -, rfl⟩
    · by_cases hi : replyAt x.replies more.length = .interrupted
      · rw [hi] at h
        exact .inr ⟨(Except.error.inj h).symm, mem_of_replyAt hi nofun⟩
      · exact .inl (isRemote_of_answerTo hi h)
    · exact .inl (Except.error.inj h ▸ .unavailable _ _)

/-- A call leaves the rest of the replies that were to come. -/
theorem replies_suffix_of_answer (client : Client) (call : Call) (x : Exchange) :
    (client.answer call x).2.replies <:+ x.replies := by
  have hpassage := client.passage call x
  generalize client.answer call x = answered at hpassage
  cases hpassage with
  | unsent _ => exact List.suffix_refl _
  | sent _ _ hsends _ => exact hsends.left ▸ List.drop_suffix _ _

/-- A call that fails has failed by the service, unless it was interrupted. -/
theorem answer_uninterrupted (hu : client.HasHost) {x : Exchange} (hx : x.Uninterrupted)
    (call : Call) : (∀ e, (client.answer call x).1 = .error e → e.IsRemote) ∧
      (client.answer call x).2.Uninterrupted := by
  refine ⟨fun e he => ?_, fun hm => hx ((replies_suffix_of_answer client call x).subset hm)⟩
  exact (error_of_answer hu he).resolve_right fun h => hx h.2

end failures

section success

/-- Among the replies, or behind them, is one that means the answer. -/
def HasReply (replies : List Reply) (call : Call) (a : call.Answer) : Prop :=
  ∃ reply, (reply ∈ replies ∨ reply = .response 500 [] true) ∧ call.answerTo reply = .ok a

theorem HasReply.mono {replies replies' : List Reply} {call : Call} {a : call.Answer}
    (h : HasReply replies call a) (hsub : ∀ reply ∈ replies, reply ∈ replies') :
    HasReply replies' call a := by
  obtain ⟨reply, hm, ha⟩ := h
  exact ⟨reply, hm.imp_left (hsub reply), ha⟩

theorem hasReply_of_answer {client : Client} {call : Call} {x : Exchange} {a : call.Answer}
    (h : (client.answer call x).1 = .ok a) : HasReply x.replies call a := by
  have hpassage := client.passage call x
  generalize client.answer call x = answered at h hpassage
  cases hpassage with
  | unsent _ => cases h
  | @sent first more _ _ _ _ _ hsettles =>
    rcases hsettles.cases with ⟨-, rfl⟩ | ⟨-, text, -, rfl⟩
    · refine ⟨replyAt x.replies more.length, ?_, h⟩
      by_cases hd : replyAt x.replies more.length = .response 500 [] true
      · exact .inr hd
      · exact .inl (mem_of_replyAt rfl hd)
    · cases h

end success

theorem settle_behind (notes : List Log.Entry) (errand : Errand) (operation : String) (left : Nat)
    (x : Exchange) (reply : Reply) : errand.settle operation left (x.behind notes) reply =
      ((errand.settle operation left x reply).1,
        (errand.settle operation left x reply).2.behind notes) := by
  cases reply with
  | response => simp only [Errand.settle, Exchange.note_behind]
  | redirect | unanswered | interrupted => rfl

theorem perform_behind (client : Client) (notes : List Log.Entry) (operation : String) (left : Nat)
    (errand : Errand) (x : Exchange) : client.perform operation left errand (x.behind notes) =
      ((client.perform operation left errand x).1,
        (client.perform operation left errand x).2.behind notes) := by
  induction left using Nat.strongRecOn generalizing errand x with
  | ind left ih =>
    rw [perform_eq client operation left errand x, perform_eq]
    cases client.proxies.route? errand.address with
    | none => rfl
    | some route =>
      simp only [Exchange.send_behind, proceed]
      cases hn : errand.next? left (x.send (client.told errand route)).1 with
      | none => exact settle_behind notes errand operation left _ _
      | some next =>
        have hleft := Errand.ne_zero_of_next? hn
        exact ih (left - 1) (by omega) next _

/-- What is answered, and what is sent for it, do not depend on the notes. -/
theorem answer_behind (client : Client) (notes : List Log.Entry) (call : Call) (x : Exchange) :
    client.answer call (x.behind notes) =
      ((client.answer call x).1, (client.answer call x).2.behind notes) := by
  cases hw : client.way call with
  | error e => rw [answer_of_way_error hw, answer_of_way_error hw]
  | ok place =>
    rw [answer_of_way hw, answer_of_way hw, perform_behind]

end Client

end Http

section run

variable {client : Client}

/-- In a run that nobody interrupts every call that fails has failed by the service. -/
theorem Plan.isRemote_of_turn {α : Type} (hu : client.HasHost) (p : Plan α) {x : Exchange}
    (hx : x.Uninterrupted) :
    ∀ turn ∈ p.turns client.service x, ∀ e, turn.answer = .error e → e.IsRemote :=
  (p.invariant (I := Exchange.Uninterrupted) (P := fun turn => ∀ e, turn.answer = .error e →
    e.IsRemote) (fun _ _ hx => hx) (fun call _ hx => Client.answer_uninterrupted hu hx call) hx).1

/-- In a run every call that succeeds has a reply that says so. -/
theorem Plan.reply_of_turn {α : Type} (client : Client) (p : Plan α) (x : Exchange) :
    ∀ turn ∈ p.turns client.service x, ∀ a, turn.answer = .ok a →
      Client.HasReply x.replies turn.call a := by
  refine (p.invariant (I := fun y => ∀ reply ∈ y.replies, reply ∈ x.replies)
    (P := fun turn => ∀ a, turn.answer = .ok a → Client.HasReply x.replies turn.call a)
    (fun _ _ hy => hy) (fun call y hy => ⟨fun a ha => ?_, fun reply hm => ?_⟩) fun _ hm => hm).1
  · exact (Client.hasReply_of_answer ha).mono hy
  · exact hy reply ((Client.replies_suffix_of_answer client call y).subset hm)

/-- Every request of a run has the time for it that the client gives. -/
theorem Plan.timeout_of_request {α : Type} (client : Client) (p : Plan α) (replies : List Reply) :
    ∀ r ∈ (p.run client.service (.start replies)).2.requests, r.timeout = client.timeout := by
  refine (p.invariant (I := fun y : Exchange => ∀ r ∈ y.requests, r.timeout = client.timeout)
    (P := fun _ => True) (fun _ _ hy => hy) (fun call y hy => ⟨trivial, ?_⟩)
    (List.forall_mem_nil _)).2
  obtain ⟨sent, hsent⟩ := client.exists_isSent call y
  change ∀ r ∈ (client.answer call y).2.requests, r.timeout = client.timeout
  rw [hsent.requests, List.forall_mem_append]
  exact ⟨hy, hsent.timeout⟩

theorem Command.isTyped_or_isRemote (hu : client.HasHost) (c : Command) {x : Exchange}
    (hx : x.Uninterrupted) {e : Failure} (h : (c.plan.run client.service x).1 = .error e) :
    e.IsTyped ∨ e.IsRemote := by
  have hcourse := c.course client.service x
  rw [h] at hcourse
  rcases hcourse.failure_cases with he | ⟨name, port, rfl⟩ | ⟨turn, ht, he⟩
  · exact .inl he
  · exact .inr (.absent name port)
  · exact .inr (Plan.isRemote_of_turn hu c.plan hx turn ht e he)

theorem Plan.run_behind {α : Type} (client : Client) (notes : List Log.Entry) (p : Plan α)
    (x : Exchange) : p.run client.service (x.behind notes) =
      ((p.run client.service x).1, (p.run client.service x).2.behind notes) := by
  induction p generalizing x with
  | done a => rfl
  | fail e => rfl
  | note entry rest ih =>
    rw [run_note, run_note, ← ih]
    exact congrArg (rest.run client.service) (x.note_behind notes entry)
  | ask call next ih =>
    have hbehind : client.service.answer call (x.behind notes) =
      ((client.service.answer call x).1, (client.service.answer call x).2.behind notes) :=
        client.answer_behind notes call x
    rcases h : client.service.answer call x with ⟨e | a, y⟩ <;> rw [h] at hbehind
    · rw [run_ask_error h, run_ask_error hbehind]
    · rw [run_ask_ok h, run_ask_ok hbehind, ih]

theorem Command.run_behind (client : Client) (notes : List Log.Entry) (room : Option Nat)
    (c : Command) (x : Exchange) : c.run client.service room (x.behind notes) =
      ((c.run client.service room x).1, (c.run client.service room x).2.1,
        (c.run client.service room x).2.2.behind notes) := by
  simp only [run_eq, Plan.run_behind]

end run

end PortShare
