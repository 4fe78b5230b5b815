import PortShare.Proofs.Admission
import PortShare.Proofs.Gate
import PortShare.Proofs.Http.Endpoint
import PortShare.Proofs.Json.Tree

/-! What a change is sent as. The body of its request is JSON from which every part of the change is
read back, whatever signs the ids, the name and the scheme are made of. -/

namespace PortShare

open Json (Document IsTree Literal Term Value)

namespace Mutation

/-- The object that a mutation is written as. -/
def term (m : Mutation) : Term :=
  .object [("environment_id", .text m.environmentId),
    ("port", .number false ⟨Literal.ofNat m.port.toNat, none, none⟩),
    ("access", .text m.access.name), ("name", .text m.name), ("scheme", .text m.scheme)]

variable {m : Mutation}

theorem document_render (m : Mutation) : Document m.term (Utf8.bytes m.toJson.render) :=
  Value.Says.document (.object (.cons (.text _) (.cons (.natural _)
    (.cons (.text _) (.cons (.text _) (.cons (.text _) .nil))))))

theorem isTree_term (m : Mutation) : IsTree 127 m.term m.toJson := by
  have hport : Literal.number false ⟨Literal.ofNat m.port.toNat, none, none⟩ =
      .ok (.natural m.port.toNat) := by
    have hlt := m.port.toNat_lt
    have hvalue := Literal.value_ofNat m.port.toNat
    rw [Literal.number_of_value_lt (by omega), hvalue]
  have text (key s : String) :
      Json.IsMember (IsTree 126) (key, .text s) (key, .text s) := ⟨rfl, .scalar (.text s)⟩
  refine .object (.cons (text _ _) (.cons ⟨rfl, .scalar (.number hport)⟩ ?_))
  exact .cons (text _ _) (.cons (text _ _) (.cons (text _ _) .nil))

/-- The text of a mutation is read back as the object that was written. -/
theorem read_render (m : Mutation) : Value.read (Utf8.bytes m.toJson.render) = .ok m.toJson :=
  (Json.read_eq_ok_iff_isTree m.document_render).mpr m.isTree_term

theorem toJson_inj {m' : Mutation} : m.toJson = m'.toJson ↔ m = m' := by
  refine ⟨fun h => ?_, fun h => by rw [h]⟩
  obtain ⟨id, port, access, name, scheme⟩ := m
  obtain ⟨id', port', access', name', scheme'⟩ := m'
  simp only [toJson, AccessLevel.toJson, Value.text, Value.natural, Value.object.injEq,
    List.cons.injEq, Prod.mk.injEq, Value.scalar.injEq, Json.Scalar.text.injEq,
    Json.Scalar.number.injEq, Json.Number.natural.injEq, true_and, and_true] at h
  obtain ⟨rfl, hport, haccess, rfl, rfl⟩ := h
  rw [UInt16.toNat_inj.mp hport, AccessLevel.name_inj.mp haccess]

/-- Nothing of a mutation is lost in its text. -/
theorem render_inj {m' : Mutation} : m.toJson.render = m'.toJson.render ↔ m = m' := by
  refine ⟨fun h => ?_, fun h => by rw [h]⟩
  have hread := m.read_render
  rw [h, read_render] at hread
  exact (toJson_inj.mp (Except.ok.inj hread)).symm

end Mutation

theorem Call.body_of_mutation {call : Call} {id : String} {m : Mutation}
    (h : call.mutation? = some (id, m)) : call.body = some m.toJson.render := by
  cases call <;> cases h <;> rfl

section name

/-- What is sent for the request has an empty text for the name. -/
def CheckedRequest.IsSentUnnamed (a : CheckedRequest) (environmentId : String) : Prop :=
  ∃ v, Value.read (Utf8.bytes (a.mutation environmentId).toJson.render) = .ok v ∧
    v.get? "name" = some (.text "")

theorem Mutation.get?_name (m : Mutation) : m.toJson.get? "name" = some (.text m.name) := rfl

theorem CheckedRequest.isSentUnnamed_iff {a : CheckedRequest} {id : String} :
    a.IsSentUnnamed id ↔ a.name = none ∨ a.name = some "" := by
  have hname : a.IsSentUnnamed id ↔ a.name.getD "" = "" := by
    unfold IsSentUnnamed
    rw [Mutation.read_render]
    simp [Mutation.get?_name, CheckedRequest.mutation, Value.text]
  rw [hname]
  cases a.name <;> simp

/-- No request is let through with an empty name: it has none then. -/
theorem Request.name_ne_of_check {r : Request} {a : CheckedRequest} (h : r.check = .ok a) :
    a.name ≠ some "" := by
  rcases (Request.check_ok_iff.mp h).name with ⟨-, hnone⟩ | ⟨hproper, hsome⟩
  · rw [hnone]
    exact nofun
  · rw [hsome]
    exact fun he => hproper.ne_empty (Option.some.inj he)

end name

/-- A request that is sent to create a devurl or to replace one has the text of its mutation for a
body, and a client that can name the URL sends one, and no other unless the reply refers to another
place, where data may be asked for instead. That text is JSON, and it is read back as an object with
the five parts of the mutation in their order and nothing else, so that two mutations with the same
text are the same. Of the requests that have been let through, those without a name are the ones that
are sent with an empty one. -/
theorem Mutation.sent_faithfully (m : Mutation) :
    (∀ (client : Http.Client) (call : Call) (x : Http.Exchange) id, call.mutation? = some (id, m) →
      (∃ sent, (client.answer call x).2.requests = x.requests ++ sent ∧
        ∀ r ∈ sent, r.method = call.method ∧ r.body = some m.toJson.render ∨
          r.method = .get ∧ r.body = none) ∧
      (client.names call = true → (Http.Client.replyAt x.replies 0).isFinal = true →
        ∃ r, (client.answer call x).2.requests = x.requests ++ [r] ∧
          r.method = call.method ∧ r.body = some m.toJson.render)) ∧
    Document m.term (Utf8.bytes m.toJson.render) ∧
    Value.read (Utf8.bytes m.toJson.render) = .ok (.object [
      ("environment_id", .text m.environmentId), ("port", .natural m.port.toNat),
      ("access", .text m.access.name), ("name", .text m.name), ("scheme", .text m.scheme)]) ∧
    m.access.name ∈ accessNames ∧
    (∀ m' : Mutation, m.toJson.render = m'.toJson.render ↔ m = m') ∧
    ∀ (a : CheckedRequest) id,
      (a.IsSentUnnamed id ↔ a.name = none ∨ a.name = some "") ∧
      ∀ r : Request, r.check = .ok a → (a.IsSentUnnamed id ↔ a.name = none) := by
  refine ⟨fun client call x id hm => ?_, m.document_render, m.read_render, m.access.name_mem,
    fun m' => render_inj, fun a id => ⟨a.isSentUnnamed_iff, fun r hr => ?_⟩⟩
  · rw [← Call.body_of_mutation hm]
    refine ⟨?_, fun hn hf => ?_⟩
    · obtain ⟨sent, hsent⟩ := client.exists_isSent call x
      exact ⟨sent, hsent.requests, hsent.asks⟩
    · obtain ⟨-, ⟨r, hr, hsent⟩, -⟩ :=
        Http.Client.answer_of_names hn (x := x) (n := 0) List.drop_zero.symm hf
      exact ⟨r, hsent, hr.method, hr.body⟩
  · rw [a.isSentUnnamed_iff, or_iff_left (Request.name_ne_of_check hr)]

/-- A change without a name, for an environment whose id is a quote and a backslash. -/
def Mutation.toQuotes : Mutation := ⟨"\"\\", 8080, .organization, "", "http"⟩

theorem Mutation.unnamed_sent_to_quotes :
    Request.check ⟨"dev", "8080", "org", ""⟩ = .ok ⟨"dev", 8080, .organization, none⟩ ∧
    CheckedRequest.IsSentUnnamed ⟨"dev", 8080, .organization, none⟩ "\"\\" ∧
    ∃ r, (Http.Client.atLoopback.answer (.create "e1" toQuotes) (.start [])).2.requests = [r] ∧
      r.body = some toQuotes.toJson.render := by
  have hcheck : Request.check ⟨"dev", "8080", "org", ""⟩ =
    .ok ⟨"dev", 8080, .organization, none⟩ := rfl
  obtain ⟨hsent, -, -, -, -, hname⟩ := sent_faithfully toQuotes
  obtain ⟨r, hr, -, hbody⟩ := (hsent Http.Client.atLoopback (.create "e1" toQuotes) (.start [])
    "e1" rfl).2 (by decide +kernel) rfl
  exact ⟨hcheck, ((hname _ _).2 _ hcheck).mpr rfl, r, hr, hbody⟩

end PortShare
