import PortShare.Proofs.Http.Naming
import PortShare.Proofs.Http.Script
import PortShare.Proofs.Url.Read

/-!
What a reply means for each call. Data is read off a complete reply with status 200 alone, for a
change any status of success will do, and every other reply is a failure of the remote service. -/

namespace PortShare

open Http (Client Exchange Place Redirection Reply Request)

namespace Call

/-- A change is content with every status of success, whatever is asked for comes with 200. -/
def Accepts (call : Call) (status : Nat) : Prop :=
  if call.isMutation then 200 ≤ status ∧ status ≤ 299 else status = 200

/-- The body is not the data that the call asks for. -/
def Rejects (body : Bytes) (problem : Json.Problem) : Call → Prop
  | .resolve _ => readEnvironments body = .error problem
  | .list _ => readDevUrls body = .error problem
  | _ => False

variable {call : Call} {status : Nat}

theorem accepts_iff_of_isMutation (h : call.isMutation = true) :
    call.Accepts status ↔ Http.isSuccess status = true := by
  rw [Accepts, if_pos h, Http.isSuccess, Bool.and_eq_true, decide_eq_true_eq, decide_eq_true_eq,
    Nat.lt_succ_iff]

theorem accepts_iff_of_not_isMutation (h : call.isMutation = false) :
    call.Accepts status ↔ status = 200 := by
  rw [Accepts, h, if_neg Bool.false_ne_true]

end Call

theorem Json.Value.text?_eq_some_iff {v : Json.Value} {s : String} :
    v.text? = some s ↔ v = .text s := by
  constructor
  · intro h
    unfold text? at h
    split at h <;> cases h
    rfl
  · rintro rfl
    rfl

namespace Http.Client

/-- The service's own words in a body, which must be JSON as a whole: the text at `error.msg`, or at
`message` if nothing is there. -/
def Explains (body : Bytes) (detail : String) : Prop :=
  ∃ v, Json.Value.read (Utf8.encode (Utf8.decodeLossy body)) = .ok v ∧
    (v.path? ["error", "msg"] <|> v.get? "message") = some (.text detail)

/-- What is said about a status that is not accepted. -/
def refusal (status : Nat) : String := "non-success status code: " ++ Numeral.decimal status

/-- The answer that a reply means for a call. -/
inductive Means : (call : Call) → Reply → Except Failure call.Answer → Prop where
  | found {name : String} {reply : Reply} {env : Environment} :
    Finds reply name env → Means (.resolve name) reply (.ok env)
  | missing {name : String} {reply : Reply} {body : Bytes} {envs : List Environment} :
    Delivers reply body → readEnvironments body = .ok envs → (∀ env ∈ envs, env.name ≠ name) →
    Means (.resolve name) reply (.error (.environmentNotFound name))
  | listed {id : String} {reply : Reply} {urls : List DevUrl} :
    Lists reply urls → Means (.list id) reply (.ok urls)
  | malformed {call : Call} {reply : Reply} {body : Bytes} {problem : Json.Problem} :
    Delivers reply body → call.Rejects body problem →
    Means call reply (.error (.malformed call.operation problem))
  /-- The body of an accepted reply stops short. -/
  | cut {call : Call} {bytes : Bytes} : call.isMutation = false →
    Means call (.response 200 bytes false)
      (.error (.remoteUnavailable call.operation "error decoding response body"))
  | changed {call : Call} {status : Nat} {bytes : Bytes} {complete : Bool} {answer : call.Answer} :
    call.isMutation = true → call.Accepts status →
    Means call (.response status bytes complete) (.ok answer)
  | explained {call : Call} {status : Nat} {bytes : Bytes} {detail : String} :
    ¬ call.Accepts status → Explains bytes detail →
    Means call (.response status bytes true)
      (.error (.remoteUnavailable call.operation (refusal status ++ ": " ++ detail)))
  | unexplained {call : Call} {status : Nat} {bytes : Bytes} {complete : Bool} :
    ¬ call.Accepts status → (complete = true → ∀ detail, ¬ Explains bytes detail) →
    Means call (.response status bytes complete)
      (.error (.remoteUnavailable call.operation (refusal status)))
  /-- The place that the reply refers to is not asked. -/
  | astray {call : Call} {how : Redirection} {place : Place} {text : String} : text ∈ strays →
    Means call (.redirect how place) (.error (.remoteUnavailable call.operation text))
  | unanswered {call : Call} :
    Means call .unanswered (.error (.remoteUnavailable call.operation "error sending request"))
  | interrupted {call : Call} : Means call .interrupted (.error .cancelled)

theorem serviceMessage_eq_some_iff {body : Bytes} {detail : String} :
    serviceMessage body = some detail ↔ Explains body detail := by
  unfold serviceMessage Explains
  cases h : Json.Value.read (Utf8.encode (Utf8.decodeLossy body)) with
  | error problem => simp
  | ok v =>
    simp only [Except.ok.injEq, exists_eq_left', Option.bind_eq_some_iff]
    constructor
    · rintro ⟨w, hw, ht⟩
      rw [hw, Json.Value.text?_eq_some_iff.mp ht]
    · exact fun hw => ⟨_, hw, rfl⟩

/-- A status that is not accepted is told, with the service's own words if there are any. -/
theorem means_failure {call : Call} {status : Nat} {bytes : Bytes} {complete : Bool}
    (h : ¬ call.Accepts status) :
    Means call (.response status bytes complete)
      (.error (Response.failure ⟨status, if complete then some bytes else none⟩
        call.operation)) := by
  cases complete with
  | false => exact .unexplained h nofun
  | true =>
    simp only [Response.failure, if_true, Option.bind_some]
    cases hd : serviceMessage bytes with
    | some detail => exact .explained h (serviceMessage_eq_some_iff.mp hd)
    | none =>
      refine .unexplained h fun _ detail hw => ?_
      rw [serviceMessage_eq_some_iff.mpr hw] at hd
      cases hd

/-- What is made of data that was asked for, from what is made of the data when it is read. -/
theorem means_decode {α : Type} {call : Call} {status : Nat} {bytes : Bytes} {complete : Bool}
    {read : Bytes → Except Json.Problem α} {f : α → Except Failure call.Answer}
    (hm : call.isMutation = false)
    (hok : ∀ body a, Delivers (.response status bytes complete) body → read body = .ok a →
      Means call (.response status bytes complete) (f a))
    (herror : ∀ body problem, read body = .error problem → call.Rejects body problem) :
    Means call (.response status bytes complete)
      (Response.decode ⟨status, if complete then some bytes else none⟩ call.operation read
        >>= f) := by
  by_cases h : status = 200
  · subst h
    cases complete with
    | false => exact .cut hm
    | true =>
      simp only [Response.decode, if_true]
      cases hr : read bytes with
      | ok a => exact hok bytes a rfl hr
      | error problem => exact .malformed rfl (herror bytes problem hr)
  · simp only [Response.decode, if_neg h]
    exact means_failure (mt (Call.accepts_iff_of_not_isMutation hm).mp h)

theorem means_pick {name : String} {reply : Reply} {body : Bytes} {envs : List Environment}
    (hd : Delivers reply body) (hr : readEnvironments body = .ok envs) :
    Means (.resolve name) reply (pick name envs) := by
  unfold pick
  split
  next env hf => exact .found ⟨body, envs, hd, hr, hf⟩
  next hf =>
    refine .missing hd hr fun env he hn => ?_
    exact List.find?_eq_none.mp hf env he (beq_iff_eq.mpr hn)

theorem means_accepted {call : Call} {status : Nat} {bytes : Bytes} {complete : Bool}
    {answer : call.Answer} {judged : Except Failure call.Answer} (hm : call.isMutation = true)
    (h : judged = if isSuccess status then .ok answer else
      .error (Response.failure ⟨status, if complete then some bytes else none⟩ call.operation)) :
    Means call (.response status bytes complete) judged := by
  rw [h]
  split
  next hs => exact .changed hm ((Call.accepts_iff_of_isMutation hm).mpr hs)
  next hs => exact means_failure (mt (Call.accepts_iff_of_isMutation hm).mp hs)

/-- The judgement of a call is what the reply means. -/
theorem means_answerTo (call : Call) (reply : Reply) : Means call reply (call.answerTo reply) := by
  cases reply with
  | redirect how place => exact .astray (by simp [strays])
  | unanswered => exact .unanswered
  | interrupted => exact .interrupted
  | response status bytes complete =>
    cases call with
    | resolve name =>
      exact means_decode rfl (fun _ _ => means_pick) fun _ _ hr => hr
    | list id =>
      rw [Call.answerTo, Call.judge, ← bind_pure (Response.decode _ _ _)]
      exact means_decode rfl (fun body _ hd hr => .listed ⟨body, hd, hr⟩) fun _ _ hr => hr
    | create id m => exact means_accepted rfl rfl
    | update id url m => exact means_accepted rfl rfl
    | delete id url => exact means_accepted rfl rfl

/-- What is said about a status that is not accepted depends on its number and the body alone. -/
theorem answerTo_of_not_accepts {call : Call} {status : Nat} (bytes : Bytes) (complete : Bool)
    (h : ¬ call.Accepts status) :
    call.answerTo (.response status bytes complete) =
      .error (Response.failure ⟨status, if complete then some bytes else none⟩
        call.operation) := by
  cases call with
  | resolve | list =>
    have hs := mt (Call.accepts_iff_of_not_isMutation rfl).mpr h
    simp only [Call.answerTo, Call.judge, Response.decode, if_neg hs]
    rfl
  | create | update | delete =>
    have hs := mt (Call.accepts_iff_of_isMutation rfl).mpr h
    simp only [Call.answerTo, Call.judge, Response.accepted, if_neg hs, Call.operation]

theorem means_of_settles {call : Call} {reply : Reply} {a : Except Failure call.Answer}
    (h : Settles call reply a) : Means call reply a := by
  rcases h.cases with ⟨-, rfl⟩ | ⟨hf, text, ht, rfl⟩
  · exact means_answerTo call reply
  · cases reply with
    | redirect how place => exact .astray ht
    | response | unanswered | interrupted => cases hf

/-- A reply that refers to no other place means one answer. -/
theorem means_iff {call : Call} {reply : Reply} {a : Except Failure call.Answer}
    (hf : reply.isFinal = true) : Means call reply a ↔ a = call.answerTo reply := by
  refine ⟨fun h => ?_, fun h => h ▸ means_answerTo call reply⟩
  cases h with
  | astray => cases hf
  | found hf => exact (answerTo_resolve_iff.mpr hf).symm
  | missing hd hr hn =>
    cases hd
    have hp := List.find?_eq_none.mpr fun env he => mt beq_iff_eq.mp (hn env he)
    simp only [Call.answerTo, Call.judge, Response.decode, hr, if_true]
    change _ = pick _ _
    rw [pick, hp]
  | listed hl => exact (answerTo_list_iff.mpr hl).symm
  | malformed hd hr =>
    cases hd
    cases call with
    | resolve name =>
      replace hr : readEnvironments _ = .error _ := hr
      simp only [Call.answerTo, Call.judge, Response.decode, if_true, hr]
      rfl
    | list id =>
      replace hr : readDevUrls _ = .error _ := hr
      simp only [Call.answerTo, Call.judge, Response.decode, if_true, hr]
      rfl
    | create | update | delete => exact hr.elim
  | cut hm => cases call <;> first | rfl | cases hm
  | changed hm ha =>
    have hs := (Call.accepts_iff_of_isMutation hm).mp ha
    cases call with
    | resolve | list => cases hm
    | create | update | delete =>
      simp only [Call.answerTo, Call.judge, Response.accepted, if_pos hs]
  | explained ha hw =>
    rw [answerTo_of_not_accepts _ _ ha]
    simp only [Response.failure, if_true, Option.bind_some, serviceMessage_eq_some_iff.mpr hw]
    rfl
  | @unexplained _ status bytes complete ha hw =>
    rw [answerTo_of_not_accepts _ _ ha]
    have hd : (if complete then some bytes else none).bind serviceMessage = none := by
      cases complete with
      | false => rfl
      | true =>
        refine Option.eq_none_iff_forall_ne_some.mpr fun detail hd => ?_
        exact hw rfl detail (serviceMessage_eq_some_iff.mp hd)
    simp only [Response.failure, hd]
    rfl
  | unanswered => rfl
  | interrupted => rfl

variable {client : Client}

theorem read_of_ofSettings {base token : String} {timeout : UInt64} {proxies : Proxies}
    (hb : ofSettings base token timeout proxies = .ok client) :
    Url.read base = .ok client.base ∧ client.token = token := by
  unfold ofSettings at hb
  split at hb
  next u hu =>
    cases hb
    exact ⟨hu, rfl⟩
  · cases hb

theorem kindOf_of_scheme (hk : client.isHttp = true ∨ client.isHttps = true) :
    Url.kindOf client.base.scheme = .known := by
  rcases hk with hk | hk <;> rw [beq_iff_eq.mp hk] <;> rfl

/-- A client that was set up for one of the two schemes knows a host. -/
theorem hasHost_of_ofSettings {base token : String} {timeout : UInt64} {proxies : Proxies}
    (hb : ofSettings base token timeout proxies = .ok client)
    (hk : client.isHttp = true ∨ client.isHttps = true) : client.HasHost :=
  Url.location_of_read (read_of_ofSettings hb).1 (kindOf_of_scheme hk)

/-- A client of a service that is spoken to over TLS. -/
def overTls : Client :=
  ⟨⟨"https".toList, .path (some (.name "dev.example.com".toList)) none ['/'], none, none⟩, "t", 30,
    {}⟩

theorem ofSettings_overTls : ofSettings "https://dev.example.com" "t" 30 = .ok overTls := by
  have h : Url.read "https://dev.example.com" = .ok overTls.base := by decide +kernel
  rw [ofSettings, h]
  rfl

theorem read_atLoopback : Url.read "http://127.0.0.1" = .ok atLoopback.base := by decide +kernel

theorem ofSettings_atLoopback : ofSettings "http://127.0.0.1" "t" 30 = .ok atLoopback := by
  rw [ofSettings, read_atLoopback]
  rfl

def excuse : Bytes := Utf8.bytes (Json.Value.object [("message", .text "busy")]).render

/-- A reply that a service may send when it cannot do what it was asked for. -/
def busy : Reply := .response 503 excuse true

end Http.Client

end PortShare
