import PortShare.Proofs.Http.Classification
import PortShare.Proofs.Json.Encoded
import PortShare.Proofs.Json.Tree
import PortShare.Proofs.Json.Writing

/-! What becomes of the service's own words when it refuses a call. They are kept if they are the
text at `error.msg`, or at `message` if nothing at all is at `error.msg`. -/

namespace PortShare.Http.Client

open Json (Document IsRead IsTree Term)

/-- Where the words stand in a body that is JSON. -/
theorem explains_iff {t : Term} {body : Bytes} {detail : String} (hd : Document t body) :
    Explains body detail ↔ t.Fits 127 ∧ (t.path? ["error", "msg"] = some (.text detail) ∨
      t.path? ["error", "msg"] = none ∧ t.get? "message" = some (.text detail)) := by
  have hread {v : Json.Value} :
      Json.Value.read (Utf8.encode (Utf8.decodeLossy body)) = .ok v ↔ IsTree 127 t v := by
    rw [hd.isEncoded.encode_decodeLossy]
    exact Json.read_eq_ok_iff_isTree hd
  have found {v : Json.Value} (hv : IsRead t v) :
      (v.path? ["error", "msg"] <|> v.get? "message") = some (.text detail) ↔
        t.path? ["error", "msg"] = some (.text detail) ∨
          t.path? ["error", "msg"] = none ∧ t.get? "message" = some (.text detail) := by
    have hpath := hv.path? ["error", "msg"]
    have hget := hv.get? "message"
    generalize t.path? ["error", "msg"] = p, v.path? ["error", "msg"] = q at hpath
    generalize t.get? "message" = p', v.get? "message" = q' at hget
    cases hpath with
    | some h => simp [h.eq_text_iff]
    | none =>
      cases hget with
      | some h => simp [h.eq_text_iff]
      | none => simp
  simp only [Explains, hread]
  constructor
  · rintro ⟨v, hv, hw⟩
    exact ⟨Json.exists_isTree_iff.mp ⟨v, hv⟩, (found ⟨127, hv⟩).mp hw⟩
  · rintro ⟨hfits, hw⟩
    obtain ⟨v, hv⟩ := Json.exists_isTree_iff.mpr hfits
    exact ⟨v, hv, (found ⟨127, hv⟩).mpr hw⟩

section answer

variable {client : Client} {call : Call} {x : Exchange} {status : Nat} {body : Bytes}
  {rest : List Reply}

/-- A refusal is told with the service's words if there are any, and by its status alone if not. -/
theorem answer_of_refusal (hn : client.names call = true)
    (hx : x.replies = .response status body true :: rest) (ha : ¬ call.Accepts status) :
    (∀ detail, Explains body detail → (client.answer call x).1 =
      .error (.remoteUnavailable call.operation (refusal status ++ ": " ++ detail))) ∧
    ((∀ detail, ¬ Explains body detail) → (client.answer call x).1 =
      .error (.remoteUnavailable call.operation (refusal status))) := by
  obtain ⟨hanswer, -, -⟩ :=
    answer_of_names hn (x := x) (n := 0) List.drop_zero.symm (by rw [hx]; rfl)
  rw [hx] at hanswer
  rw [hanswer]
  exact ⟨fun detail hw => ((means_iff rfl).mp (.explained ha hw)).symm,
    fun hw => ((means_iff rfl).mp (.unexplained ha fun _ => hw)).symm⟩

/-- What is told of a refusal whose body is JSON. The text at `error.msg` is kept, and the one at
`message` where nothing is at `error.msg`; but anything there that is no text hides the one at
`message`, and nothing is kept of a body that is nested too deep or has a number out of range. -/
theorem answer_explained (hn : client.names call = true)
    (hx : x.replies = .response status body true :: rest) (ha : ¬ call.Accepts status) {t : Term}
    (hd : Document t body) :
    let answer := (client.answer call x).1
    let told (text : String) : Except Failure call.Answer :=
      .error (.remoteUnavailable call.operation text)
    (t.Fits 127 →
      (∀ detail, t.path? ["error", "msg"] = some (.text detail) →
        answer = told (refusal status ++ ": " ++ detail)) ∧
      (t.path? ["error", "msg"] = none → ∀ detail, t.get? "message" = some (.text detail) →
        answer = told (refusal status ++ ": " ++ detail)) ∧
      (t.path? ["error", "msg"] = none → (∀ detail, t.get? "message" ≠ some (.text detail)) →
        answer = told (refusal status)) ∧
      (∀ inner, t.path? ["error", "msg"] = some inner → (∀ detail, inner ≠ .text detail) →
        answer = told (refusal status))) ∧
    (¬ t.Fits 127 → answer = told (refusal status)) := by
  obtain ⟨explained, unexplained⟩ := answer_of_refusal hn hx ha
  refine ⟨fun hfits => ⟨fun detail hp => ?_, fun hp detail hg => ?_, fun hp hg => ?_,
    fun inner hp hi => ?_⟩, fun hfits => ?_⟩
  · exact explained detail ((explains_iff hd).mpr ⟨hfits, .inl hp⟩)
  · exact explained detail ((explains_iff hd).mpr ⟨hfits, .inr ⟨hp, hg⟩⟩)
  · refine unexplained fun detail hw => ?_
    rcases ((explains_iff hd).mp hw).2 with h | ⟨-, h⟩
    · rw [hp] at h
      cases h
    · exact hg detail h
  · refine unexplained fun detail hw => ?_
    rcases ((explains_iff hd).mp hw).2 with h | ⟨h, -⟩ <;> rw [hp] at h
    · exact hi detail (Option.some.inj h)
    · cases h
  · exact unexplained fun detail hw => hfits ((explains_iff hd).mp hw).1

end answer

/-- A body with a text at `message`, and with something at `error.msg`. -/
def doubly (v : Json.Value) : Bytes :=
  Utf8.bytes (Json.Value.object [("error", .object [("msg", v)]), ("message", .text "busy")]).render

theorem document_doubly {v : Json.Value} {t : Term} (h : v.Says t) :
    Document (.object [("error", .object [("msg", t)]), ("message", .text "busy")]) (doubly v) :=
  Json.Value.Says.document
    (.object (.cons (.object (.cons h .nil)) (.cons (.text "busy") .nil)))

theorem text_at_error_kept :
    (atLoopback.answer (.delete "e1" "u1")
        (.start [.response 503 (doubly (.text "no quota")) true])).1 =
      .error (.remoteUnavailable "delete devurl" "non-success status code: 503: no quota") := by
  have ha : ¬ (Call.delete "e1" "u1").Accepts 503 :=
    mt (Call.accepts_iff_of_isMutation rfl).mp (by decide)
  have hfits : Term.Fits 127
      (.object [("error", .object [("msg", .text "no quota")]), ("message", .text "busy")]) := by
    simp [Term.Fits]
  have ht : refusal 503 ++ ": " ++ "no quota" = "non-success status code: 503: no quota" := by
    decide +kernel
  have hn : atLoopback.names (.delete "e1" "u1") = true := by decide +kernel
  rw [← ht]
  exact (answer_explained hn (x := .start _) rfl ha (document_doubly (.text "no quota"))).1 hfits
    |>.1 _ rfl

/-- A number at `error.msg` hides the text at `message`. -/
theorem number_at_error_hides_text : ∃ t, Document t (doubly (.natural 5)) ∧
    (∀ detail, t.path? ["error", "msg"] ≠ some (.text detail)) ∧
    t.get? "message" = some (.text "busy") ∧
    (atLoopback.answer (.delete "e1" "u1")
        (.start [.response 503 (doubly (.natural 5)) true])).1 =
      .error (.remoteUnavailable "delete devurl" "non-success status code: 503") := by
  have ha : ¬ (Call.delete "e1" "u1").Accepts 503 :=
    mt (Call.accepts_iff_of_isMutation rfl).mp (by decide)
  have hd := document_doubly (.natural 5)
  have ht : refusal 503 = "non-success status code: 503" := by decide +kernel
  have hn : atLoopback.names (.delete "e1" "u1") = true := by decide +kernel
  refine ⟨_, hd, fun detail h => (by cases h), rfl, ?_⟩
  rw [← ht]
  refine (answer_of_refusal hn (x := .start _) rfl ha).2 ?_
  intro detail hw
  rcases ((explains_iff hd).mp hw).2 with h | ⟨h, -⟩ <;> cases h

end PortShare.Http.Client
