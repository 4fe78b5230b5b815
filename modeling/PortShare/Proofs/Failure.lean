import PortShare.Proofs.Course

/-! The failures of a command. A typed field that is out of order is found before anything is asked,
and everything else that goes wrong is a matter of the service; the code tells the two apart. -/

namespace PortShare

/-- A typed field is out of order. -/
inductive Failure.IsTyped : Failure → Prop where
  | port (typed reason : String) : IsTyped (.invalidPort typed reason)
  | access (level : String) : IsTyped (.invalidAccessLevel level)
  | name (name : String) : IsTyped (.invalidName name)

/-- The service has failed, or has not what it is asked for. -/
inductive Failure.IsRemote : Failure → Prop where
  | environment (name : String) : IsRemote (.environmentNotFound name)
  | unavailable (operation message : String) : IsRemote (.remoteUnavailable operation message)
  | malformed (operation : String) (problem : Json.Problem) : IsRemote (.malformed operation problem)
  | absent (environment : String) (port : UInt16) : IsRemote (.notFound environment port)

theorem Failure.IsTyped.exitCode {e : Failure} (h : e.IsTyped) : e.exitCode = 2 := by
  cases h <;> rfl

theorem Failure.IsRemote.exitCode {e : Failure} (h : e.IsRemote) : e.exitCode = 1 := by
  cases h <;> rfl

section check

theorem isTyped_of_checkPort {s : String} {e : Failure} (h : checkPort s = .error e) :
    e.IsTyped := by
  unfold checkPort at h
  split at h
  · cases h
  · cases h
    exact .port _ _

theorem isTyped_of_checkAccess {s : String} {e : Failure} (h : checkAccess s = .error e) :
    e.IsTyped := by
  rw [checkAccess_eq_readAccess, readAccess] at h
  split at h
  · cases h
  · cases h
    exact .access _

theorem isTyped_of_check {r : Request} {e : Failure} (h : r.check = .error e) : e.IsTyped := by
  unfold Request.check at h
  split at h
  · next hp => exact Except.error.inj h ▸ isTyped_of_checkPort hp
  · split at h
    · next ha => exact Except.error.inj h ▸ isTyped_of_checkAccess ha
    · split at h
      · cases h
      · cases h
        exact .name _

theorem Command.isTyped_of_verdict {c : Command} {e : Failure} (h : c.verdict = .error e) :
    e.IsTyped := by
  have error_of_map {α : Type} {x : Except Failure α} (hx : x.map (fun _ => ()) = .error e) :
      x = .error e := by
    cases x <;> simp_all [Except.map]
  cases c with
  | list name format => cases h
  | upsert r => exact isTyped_of_check (error_of_map h)
  | remove name typed => exact isTyped_of_checkPort (error_of_map h)

end check

/-- A command fails because of a typed field, because there is nothing to remove, or with the
failure of its last call. -/
theorem Course.failure_cases {c : Command} {ts : List Turn} {e : Failure}
    (h : Course c ts (.error e)) :
    e.IsTyped ∨ (∃ name port, e = .notFound name port) ∨ ∃ turn ∈ ts, turn.answer = .error e := by
  cases h with
  | refused hv => exact .inl (Command.isTyped_of_verdict hv)
  | unresolved _ => exact .inr (.inr ⟨_, List.mem_singleton_self _, rfl⟩)
  | unlisted _ => exact .inr (.inr ⟨_, .tail _ (List.mem_singleton_self _), rfl⟩)
  | listed _ he =>
    cases he with
    | absent _ _ _ => exact .inr (.inl ⟨_, _, rfl⟩)
    | failed _ => exact .inr (.inr ⟨_, .tail _ (.tail _ (List.mem_singleton_self _)), rfl⟩)

end PortShare
