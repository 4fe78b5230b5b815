import PortShare.Proofs.Http.Address
import PortShare.Proofs.Http.Classification
import PortShare.Proofs.Url.Form

/-! The URLs below that of a service. The ids can be read back off the path and the token off the
query, behind all that the URL of the service has in its own path and query. -/

namespace PortShare.Http.Client

open Url (ownPairs percentDecode percentEncode queryPairs segmentReserved)
open Url.Path (IsRooted IsSegment endsWithSlash extend extend_trimmed stem)

variable {client : Client} {base token : String} {timeout : UInt64}
  {proxies : Proxies}

/-- The URL of a client of either scheme has a path, which begins at the root. -/
theorem exists_path_of_ofSettings (hb : ofSettings base token timeout proxies = .ok client)
    (hk : client.isHttp = true ∨ client.isHttps = true) :
    ∃ host port path, client.base.location = .path (some host) port path ∧ IsRooted path := by
  obtain ⟨cs, hcs⟩ := Url.readAuthority_of_read (read_of_ofSettings hb).1 (kindOf_of_scheme hk)
  obtain ⟨host, port, path, hl⟩ := Url.location_of_readAuthority hcs
  obtain ⟨front, rfl⟩ := Url.isRead_of_readAuthority hcs _ _ _ hl
  exact ⟨host, port, _, hl, Url.isRooted_readPath front⟩

section path

/-- A segment of a path that nothing else can be read from than the text. -/
structure StandsFor (segment : List Char) (text : String) : Prop where
  undivided : ∀ sign ∈ ['/', '?', '#', '\\'], sign ∉ segment
  decoded : Utf8.text? (percentDecode segment) = some text

theorem standsFor_percentEncode (text : String) :
    StandsFor (percentEncode segmentReserved text.toList) text where
  undivided sign hs := by
    simp only [List.mem_cons, List.not_mem_nil, or_false] at hs
    rcases hs with rfl | rfl | rfl | rfl <;>
      exact Url.not_mem_percentEncode (by decide) (by decide) (by decide) _
  decoded := by
    have h := Url.percentDecode_percentEncode Url.Path.percent_mem text.toList []
    rw [List.append_nil, percentDecode, List.append_nil] at h
    rw [h]
    exact Utf8.text?_bytes text

theorem root_eq {path : List Char} (h : IsRooted path) :
    root path = stem path ++ "/api/environments".toList := by
  have hapi : ∀ c ∈ "api".toList, c.isAlphanum = true := List.all_eq_true.mp (by decide)
  have henv : ∀ c ∈ "environments".toList, c.isAlphanum = true :=
    List.all_eq_true.mp (by decide)
  rw [root, extend_trimmed h (Url.Path.isSegment_of_alphanum hapi),
    Url.percentEncode_of_alphanum hapi,
    Url.Path.extend_of_isSegment_behind (Url.Path.isSegment_of_alphanum henv)
      (by simp), Url.percentEncode_of_alphanum henv, List.append_assoc]
  rfl

/-- The client of the service at another place. -/
def movedTo (client : Client) (location : Url.Location) : Client :=
  { client with base := { client.base with location } }

/-- A service whose path has a slash at its end has the same URLs below it. -/
theorem endpointOf_append_slash {host : Option Url.Host} {port : Option Nat} {path : List Char}
    (hl : client.base.location = .path host port path) (h : IsRooted path)
    (he : endsWithSlash path = false) (call : Call) :
    (client.movedTo (.path host port (path ++ ['/']))).endpointOf call =
      client.endpointOf call := by
  have same (segments : List String) :
      (client.movedTo (.path host port (path ++ ['/']))).endpoint segments =
        client.endpoint segments := by
    simp only [endpoint, movedTo, hl, Url.Path.trimmed_append_slash h he]
  cases call <;> exact same _

/-- The paths of the devurls of an environment and of one of them are those of the service with the
ids behind it, each as a segment that it can be read back from. The slash at the end of the
service's own path makes no difference. -/
theorem devurlsEndpoint_spec (hb : ofSettings base token timeout proxies = .ok client)
    (hk : client.isHttp = true ∨ client.isHttps = true) :
    ∃ host port path, client.base.location = .path (some host) port path ∧
      (∀ environment : String, IsSegment environment.toList →
        ∃ inner, StandsFor inner environment ∧
          client.devurlsEndpoint environment none =
            .ok ⟨stem path ++ "/api/environments/".toList ++ inner ++ "/devurls".toList,
              client.query⟩ ∧
          ∀ record : String, IsSegment record.toList → ∃ last, StandsFor last record ∧
            client.devurlsEndpoint environment (some record) =
              .ok ⟨stem path ++ "/api/environments/".toList ++ inner ++ "/devurls/".toList ++ last,
                client.query⟩) ∧
      (endsWithSlash path = false → ∀ call,
        (client.movedTo (.path (some host) port (path ++ ['/']))).endpointOf call =
          client.endpointOf call) := by
  obtain ⟨host, port, path, hl, hrooted⟩ := exists_path_of_ofSettings hb hk
  refine ⟨host, port, path, hl, fun environment he => ?_, endpointOf_append_slash hl hrooted⟩
  refine ⟨_, standsFor_percentEncode environment, ?_, fun record hr => ?_⟩
  · rw [devurlsEndpoint_none hl, collection_eq path he, root_eq hrooted]
    simp
  · refine ⟨_, standsFor_percentEncode record, ?_⟩
    rw [devurlsEndpoint_some hl, extend_collection_eq path he hr, root_eq hrooted]
    simp

/-- A client of a service that is not at the root, with a pair in its query and signs in the
token. -/
def belowRoot : Client :=
  ⟨⟨"http".toList, .path (some loopback) none "/x".toList, some "k=v".toList, none⟩,
    "p&q=+%# é", 30, {}⟩

theorem ofSettings_belowRoot :
    ofSettings "http://127.0.0.1/x?k=v" "p&q=+%# é" 30 = .ok belowRoot := by
  have h : Url.read "http://127.0.0.1/x?k=v" = .ok belowRoot.base := by decide +kernel
  rw [ofSettings, h]
  rfl

theorem odd_ids_in_path : ∃ inner last, StandsFor inner "a/b %" ∧ StandsFor last "" ∧
    belowRoot.devurlsEndpoint "a/b %" (some "") =
      .ok ⟨"/x".toList ++ "/api/environments/".toList ++ inner ++ "/devurls/".toList ++ last,
        belowRoot.query⟩ := by
  obtain ⟨host, port, path, hl, hids, -⟩ := devurlsEndpoint_spec ofSettings_belowRoot (.inl rfl)
  obtain ⟨inner, hinner, -, hrecord⟩ :=
    hids "a/b %" ⟨by decide, by decide, Url.Path.kept_eq_self_iff.mp rfl⟩
  obtain ⟨last, hlast, he⟩ :=
    hrecord "" ⟨by decide, by decide, Url.Path.kept_eq_self_iff.mp rfl⟩
  cases hl
  exact ⟨inner, last, hinner, hlast, he⟩

end path

section query

/-- The segments of an endpoint follow from the call, whatever the client is. -/
theorem exists_segments (call : Call) :
    ∃ segments, ∀ client : Client, client.endpointOf call = client.endpoint segments := by
  cases call <;> exact ⟨_, fun _ => rfl⟩

theorem endpoint_eq_ok_iff {segments : List String} {e : Endpoint} :
    client.endpoint segments = .ok e ↔ ∃ host port path,
      client.base.location = .path host port path ∧
      e = ⟨segments.foldl (fun p s => extend p s.toList) (Url.Path.trimmed path), client.query⟩ := by
  unfold endpoint
  constructor
  · intro h
    split at h
    · cases h
    · cases h
      exact ⟨_, _, _, by assumption, rfl⟩
  · rintro ⟨host, port, path, hl, rfl⟩
    rw [hl]
    rfl

/-- Texts that are added to a path bring no sign of a query into it. -/
theorem question_not_mem_foldl {path : List Char} (h : '?' ∉ path) (segments : List String) :
    '?' ∉ segments.foldl (fun p s => extend p s.toList) (Url.Path.trimmed path) := by
  refine List.foldlRecOn (motive := fun p => '?' ∉ p) _ _ ?_ fun p hp s _ hc => ?_
  · unfold Url.Path.trimmed
    split
    · exact fun hc => h ((List.dropLast_prefix _).subset hc)
    · exact h
  · rcases Url.Path.mem_extend hc with hc | hc | hc
    · exact hp hc
    · exact Url.not_mem_percentEncode (by decide) (by decide) (by decide) _ hc
    · cases hc

/-- The target of a request is the text of the endpoint, or the whole URL if it goes to a proxy. -/
def Targets (client : Client) (r : Request) (e : Endpoint) : Prop :=
  r.route.target.toList = e.text ∨ ∃ host port path,
    client.base.location = .path (some host) port path ∧
    r.route.target.toList = Url.origin client.base.scheme host port ++ e.text

theorem Carries.targets {r : Request} {call : Call} {e : Endpoint} (hr : client.Carries r call)
    (he : client.endpointOf call = .ok e) : client.Targets r e := by
  obtain ⟨e', he', ha⟩ := hr.place
  obtain rfl := Except.ok.inj (he.symm.trans he')
  obtain ⟨host, port, path, hl, hplace, hscheme⟩ := address?_eq_some ha
  have hresource : r.address.resource = e.text := by rw [hplace]; rfl
  have horigin : r.address.origin = Url.origin client.base.scheme host port := by
    rw [Address.origin, hscheme, hplace]
  rcases target_of_route? hr.route with ht | ht
  · refine .inl ?_
    rw [ht, String.toList_ofList, hresource]
  · refine .inr ⟨host, port, path, hl, ?_⟩
    rw [ht, String.toList_ofList, Address.text, horigin, hresource]

/-- The request for a call has the pairs of the service's own query and behind them the token, as it
was given; on the path the token has no influence. It is the first that is sent for the call, and the
only one unless the reply to it refers to another place. -/
theorem endpointOf_authenticates (hb : ofSettings base token timeout proxies = .ok client)
    (call : Call) :
    (client.isHttp = true ∨ client.isHttps = true ∨
        (∃ host port path, client.base.location = .path host port path) →
      ∃ e, client.endpointOf call = .ok e) ∧
    ∀ e, client.endpointOf call = .ok e →
      queryPairs e.query =
        ownPairs client.base.query ++ [("session_token".toList, token.toList)] ∧
      '?' ∉ e.path ∧
      (∀ token' timeout' proxies' client', ofSettings base token' timeout' proxies' = .ok client' →
        ∃ query', client'.endpointOf call = .ok ⟨e.path, query'⟩) ∧
      ∀ x : Exchange, ∃ sent, (client.answer call x).2.requests = x.requests ++ sent ∧
        (∀ r, sent.head? = some r → client.Targets r e) ∧
        ((replyAt x.replies 0).isFinal = true → ∀ r ∈ sent, client.Targets r e) := by
  obtain ⟨segments, hs⟩ := exists_segments call
  have exists_endpoint {host port path} (hl : client.base.location = .path host port path) :
      ∃ e, client.endpointOf call = .ok e :=
    ⟨_, (hs client).trans (endpoint_eq_ok_iff.mpr ⟨host, port, path, hl, rfl⟩)⟩
  refine ⟨fun h => ?_, fun e he => ?_⟩
  · rcases or_assoc.mpr h with hk | ⟨host, port, path, hl⟩
    · obtain ⟨host, port, path, hl⟩ := hasHost_of_ofSettings hb hk
      exact exists_endpoint hl
    · exact exists_endpoint hl
  obtain ⟨hread, htoken⟩ := read_of_ofSettings hb
  obtain ⟨host, port, path, hl, heq⟩ := endpoint_eq_ok_iff.mp (hs client ▸ he)
  refine ⟨?_, ?_, fun token' timeout' proxies' client' hb' => ?_, fun x => ?_⟩
  · rw [heq, query, htoken, Url.queryPairs_appendPair]
  · obtain ⟨known, hknown⟩ := Url.isRead_of_read hread
    obtain ⟨front, rfl⟩ := hknown _ _ _ hl
    rw [heq]
    exact question_not_mem_foldl (Url.question_not_mem_readPath known front) segments
  · have hbase : client'.base = client.base :=
      Except.ok.inj ((read_of_ofSettings hb').1.symm.trans hread)
    refine ⟨client'.query, ?_⟩
    rw [hs, heq]
    exact endpoint_eq_ok_iff.mpr ⟨host, port, path, hbase ▸ hl, rfl⟩
  · obtain ⟨sent, hsent⟩ := client.exists_isSent call x
    exact ⟨sent, hsent.requests, fun r hr => (hsent.first r hr).targets he,
      fun hf r hr => (hsent.carries hf r hr).targets he⟩

theorem token_with_signs_is_sent : ∃ e, belowRoot.endpointOf (.delete "e1" "u1") = .ok e ∧
    queryPairs e.query = [("k".toList, "v".toList),
      ("session_token".toList, "p&q=+%# é".toList)] := by
  obtain ⟨h, hall⟩ := endpointOf_authenticates ofSettings_belowRoot (.delete "e1" "u1")
  obtain ⟨e, he⟩ := h (.inl rfl)
  have hown : ownPairs belowRoot.base.query = [("k".toList, "v".toList)] := by decide +kernel
  refine ⟨e, he, (hall e he).1.trans ?_⟩
  rw [hown]
  rfl

end query

end PortShare.Http.Client
