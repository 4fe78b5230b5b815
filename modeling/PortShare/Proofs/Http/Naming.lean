import PortShare.Proofs.Http.Calls
import PortShare.Proofs.Url.Path

/-! Which calls can be named. Letters and digits stand in a path as they are, so that an id with too
many of them makes a URL that is too long to be sent. -/

namespace PortShare

namespace Http.Client

/-- An endpoint with a long path has no address. -/
theorem address?_of_long {client : Client} {e : Endpoint} (h : maxUrl < e.path.length) :
    client.address? e = none := by
  unfold address?
  split
  · rw [if_neg]
    rw [Bool.and_eq_true, decide_eq_true_eq, not_and_or]
    right
    simp only [Endpoint.text, List.length_append]
    omega
  · rfl

/-- A call with a long id is one that no URL has room for. -/
theorem way_of_long {client : Client} (hu : client.HasHost) (environment : String) {id : String}
    (h : ∀ c ∈ id.toList, c.isAlphanum = true) (hl : maxUrl < id.toList.length) :
    client.way (.delete environment id) =
      .error (.remoteUnavailable "delete devurl" "builder error") := by
  obtain ⟨e, he⟩ := hu.endpointOf (.delete environment id)
  have hp : id.toList <:+ e.path := by
    simp only [endpointOf, devurlsEndpoint, endpoint] at he
    split at he
    · cases he
    · cases he
      simp only [Option.toList_some, List.foldl_append, List.foldl_cons, List.foldl_nil]
      exact Url.Path.suffix_extend h
  have ha : client.address? e = none := address?_of_long (Nat.lt_of_lt_of_le hl hp.length_le)
  unfold way
  rw [he]
  dsimp only
  rw [ha]
  rfl

/-- This computer as a host. -/
def loopback : Url.Host := .number (127 * 16777216 + 1)

/-- A client of a service on this computer. -/
def atLoopback : Client :=
  ⟨⟨"http".toList, .path (some loopback) none ['/'], none, none⟩, "t", 30, {}⟩

theorem hasHost_atLoopback : atLoopback.HasHost := ⟨_, _, _, rfl⟩

/-- An id of `n` letters. -/
def letters (n : Nat) : String := String.ofList (List.replicate n 'a')

theorem way_letters {client : Client} (hu : client.HasHost) (environment : String) {n : Nat}
    (h : maxUrl < n) : client.way (.delete environment (letters n)) =
      .error (.remoteUnavailable "delete devurl" "builder error") := by
  have hl : (letters n).toList = List.replicate n 'a' := String.toList_ofList
  refine way_of_long hu environment ?_ ?_ <;> rw [hl]
  · intro c hc
    rw [List.eq_of_mem_replicate hc]
    decide
  · rwa [List.length_replicate]

theorem not_names_letters {client : Client} (hu : client.HasHost) (environment : String) {n : Nat}
    (h : maxUrl < n) : client.names (.delete environment (letters n)) = false :=
  not_names_iff.mpr ⟨_, way_letters hu environment h⟩

end Http.Client

end PortShare
