import PortShare.Proofs.Http.Naming

/-! Where the calls about one devurl go. An id that can be a segment of a path makes a path of its
own, one segment below that of the devurls of its environment. -/

namespace PortShare.Http.Client

open Url (percentDecode percentEncode segmentReserved)
open Url.Path (IsSegment extend extend_of_isSegment_behind slash_not_mem_percentEncode)

variable {client : Client} {host : Option Url.Host} {port : Option Nat} {path : List Char}

/-- The path of the environments. -/
def root (path : List Char) : List Char :=
  extend (extend (Url.Path.trimmed path) "api".toList) "environments".toList

/-- The path of the devurls of an environment. -/
def collection (path : List Char) (environment : String) : List Char :=
  extend (extend (root path) environment.toList) "devurls".toList

/-- The query of every request. -/
def query (client : Client) : List Char :=
  Url.appendPair client.base.query "session_token".toList client.token.toList

theorem devurlsEndpoint_none (hl : client.base.location = .path host port path)
    (environment : String) :
    client.devurlsEndpoint environment none = .ok ⟨collection path environment, client.query⟩ := by
  simp only [devurlsEndpoint, endpoint, hl]
  rfl

theorem devurlsEndpoint_some (hl : client.base.location = .path host port path)
    (environment record : String) : client.devurlsEndpoint environment (some record) =
      .ok ⟨extend (collection path environment) record.toList, client.query⟩ := by
  simp only [devurlsEndpoint, endpoint, hl]
  rfl

/-- Behind whatever path, the environments are at a path that ends in their name. -/
theorem exists_root_eq (path : List Char) :
    ∃ front, root path = front ++ '/' :: "environments".toList := by
  refine Url.Path.exists_extend_eq_append (List.all_eq_true.mp (by decide)) fun h => ?_
  have hs : "api".toList <:+ extend (Url.Path.trimmed path) "api".toList :=
    Url.Path.suffix_extend (List.all_eq_true.mp (by decide))
  have hlen := hs.length_le
  rw [h] at hlen
  exact absurd hlen (by decide)

theorem exists_collection_eq (path : List Char) (environment : String) :
    ∃ front, collection path environment = front ++ '/' :: "devurls".toList := by
  obtain ⟨front, hf⟩ := exists_root_eq path
  refine Url.Path.exists_extend_eq_append (List.all_eq_true.mp (by decide)) fun h => ?_
  rw [hf] at h ⊢
  exact Url.Path.extend_append_eq_slash front (by decide) (by decide) (by decide) h

/-- The path of the devurls of an environment whose id can be a segment. -/
theorem collection_eq (path : List Char) {environment : String}
    (he : IsSegment environment.toList) : collection path environment = root path ++
      '/' :: (percentEncode segmentReserved environment.toList ++ '/' :: "devurls".toList) := by
  obtain ⟨front, hf⟩ := exists_root_eq path
  have halpha : ∀ c ∈ "devurls".toList, c.isAlphanum = true := List.all_eq_true.mp (by decide)
  have hname : percentEncode segmentReserved "devurls".toList = "devurls".toList :=
    Url.percentEncode_of_alphanum halpha
  have hroot : 1 < (root path).length := by
    rw [hf]
    simp
  rw [collection, extend_of_isSegment_behind he hroot,
    extend_of_isSegment_behind (Url.Path.isSegment_of_alphanum halpha)
      (by rw [List.length_append]; omega), hname, List.append_assoc, List.cons_append]

/-- The path of a devurl, where both ids can be segments. -/
theorem extend_collection_eq (path : List Char) {environment record : String}
    (he : IsSegment environment.toList) (hr : IsSegment record.toList) :
    extend (collection path environment) record.toList = root path ++
      '/' :: (percentEncode segmentReserved environment.toList ++
        '/' :: ("devurls".toList ++ '/' :: percentEncode segmentReserved record.toList)) := by
  have hcoll : 1 < (collection path environment).length := by
    obtain ⟨front, hf⟩ := exists_collection_eq path environment
    rw [hf]
    simp
  rw [extend_of_isSegment_behind hr hcoll, collection_eq path he]
  simp only [List.append_assoc, List.cons_append]

/-- A text without the sign is told apart from what stands behind the first sign. -/
theorem append_cons_inj {α : Type} {sign : α} {as as' bs bs' : List α} (h : sign ∉ as)
    (h' : sign ∉ as') (he : as ++ sign :: bs = as' ++ sign :: bs') : as = as' ∧ bs = bs' := by
  rcases List.append_eq_append_iff.mp he with ⟨t, rfl, ht⟩ | ⟨t, rfl, ht⟩ <;> cases t with
  | nil => simp_all
  | cons a t => simp_all

/-- Different devurls have different paths, if the ids can be segments. -/
theorem extend_collection_inj {path : List Char} {environment record environment' record' : String}
    (he : IsSegment environment.toList) (hr : IsSegment record.toList)
    (he' : IsSegment environment'.toList) (hr' : IsSegment record'.toList)
    (h : extend (collection path environment) record.toList =
      extend (collection path environment') record'.toList) :
    environment = environment' ∧ record = record' := by
  have encoded_inj {s t : String} (hst : percentEncode segmentReserved s.toList =
      percentEncode segmentReserved t.toList) : s = t :=
    String.toList_injective ((Url.percentEncode_inj Url.Path.percent_mem).mp hst)
  rw [extend_collection_eq path he hr, extend_collection_eq path he' hr'] at h
  obtain ⟨henv, h⟩ := append_cons_inj (slash_not_mem_percentEncode _)
    (slash_not_mem_percentEncode _) (List.cons.inj (List.append_cancel_left h)).2
  exact ⟨encoded_inj henv, encoded_inj (List.cons.inj (List.append_cancel_left h)).2⟩

/-- What is addressed by the calls about devurls, at a service whose URL has a path. An update and
a deletion go one segment below the devurls of the environment, to a segment that stands for the id,
just when the id can be a segment; with such ids they go to different places for different devurls.
But every id shares its place with one that cannot be a segment. -/
theorem addresses_devurl_iff (hl : client.base.location = .path host port path) :
    (∀ environment record m, ∃ collection own query,
      client.endpointOf (.list environment) = .ok ⟨collection, query⟩ ∧
      client.endpointOf (.create environment m) = .ok ⟨collection, query⟩ ∧
      client.endpointOf (.update environment record m) = .ok ⟨own, query⟩ ∧
      client.endpointOf (.delete environment record) = .ok ⟨own, query⟩ ∧
      ((∃ segment, own = collection ++ '/' :: segment ∧ '/' ∉ segment ∧
        percentDecode segment = Utf8.bytes record) ↔ IsSegment record.toList)) ∧
    (∀ environment record environment' record', IsSegment environment.toList →
      IsSegment record.toList → IsSegment environment'.toList → IsSegment record'.toList →
      client.endpointOf (.delete environment record) =
        client.endpointOf (.delete environment' record') →
      environment = environment' ∧ record = record') ∧
    ∀ record, ∃ other, other ≠ record ∧ ¬ IsSegment other.toList ∧ ∀ environment,
      client.endpointOf (.delete environment other) =
        client.endpointOf (.delete environment record) := by
  have hlist := devurlsEndpoint_none hl
  have hown := devurlsEndpoint_some hl
  refine ⟨fun environment record m => ?_, ?_, fun record => ?_⟩
  · obtain ⟨front, hf⟩ := exists_collection_eq path environment
    refine ⟨_, _, _, hlist environment, hlist environment, hown environment record,
      hown environment record, ?_⟩
    rw [hf]
    exact Url.Path.extend_eq_append_iff front (by decide) (by decide) (by decide) _
  · intro environment record environment' record' he hr he' hr' h
    have h : client.devurlsEndpoint environment (some record) =
        client.devurlsEndpoint environment' (some record') := h
    rw [hown, hown] at h
    exact extend_collection_inj he hr he' hr' (congrArg Endpoint.path (Except.ok.inj h))
  · obtain ⟨other, hne, hs, ho⟩ := Url.Path.exists_extend_eq record
    refine ⟨other, hne, hs, fun environment => ?_⟩
    change client.devurlsEndpoint environment (some other) =
      client.devurlsEndpoint environment (some record)
    rw [hown, hown, ho]

/-- Two devurls of one environment at different places. -/
theorem addresses_two_devurls : "a b" ≠ "a/b" ∧
    atLoopback.endpointOf (.delete "e1" "a b") ≠ atLoopback.endpointOf (.delete "e1" "a/b") := by
  have hs : IsSegment "e1".toList ∧ IsSegment "a b".toList ∧ IsSegment "a/b".toList :=
    ⟨⟨by decide, by decide, Url.Path.kept_eq_self_iff.mp rfl⟩,
      ⟨by decide, by decide, Url.Path.kept_eq_self_iff.mp rfl⟩,
      ⟨by decide, by decide, Url.Path.kept_eq_self_iff.mp rfl⟩⟩
  refine ⟨by decide, fun h => ?_⟩
  have hl : atLoopback.base.location = .path (some loopback) none ['/'] := rfl
  have hne := ((addresses_devurl_iff hl).2.1 _ _ _ _ hs.1 hs.2.1 hs.1 hs.2.2 h).2
  exact absurd hne (by decide)

/-- A deletion that goes to all devurls of the environment, and two that go to one place. -/
theorem deletion_of_a_point_misses :
    atLoopback.endpointOf (.delete "e1" ".") = atLoopback.endpointOf (.list "e1") ∧
    atLoopback.endpointOf (.delete "e1" "a\tb") = atLoopback.endpointOf (.delete "e1" "ab") :=
  ⟨rfl, rfl⟩

end PortShare.Http.Client
