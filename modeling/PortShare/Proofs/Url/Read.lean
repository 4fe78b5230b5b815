import PortShare.Proofs.Url.Path
import PortShare.Url.Read

/-! What a URL is read as. One whose scheme says how hosts are looked up has a host, and a path that
begins at the root. -/

namespace PortShare.Url

theorem exists_host_of_hostAndPort {user : Bool} {cs rest : List Char} {host : Option Host}
    {port : Option Nat} (h : splitHost.hostAndPort true user cs = .ok (host, port, rest)) :
    ∃ name, host = some name := by
  simp only [splitHost.hostAndPort, Bool.true_or, Bool.and_true] at h
  split at h
  · cases h
  · split at h
    · cases h
    next name _ =>
      split at h
      · cases hp : splitPort _ with
        | error e =>
          rw [hp] at h
          cases h
        | ok p =>
          rw [hp] at h
          cases h
          exact ⟨name, rfl⟩
      · cases h
        exact ⟨name, rfl⟩

theorem exists_host_of_splitHost {cs rest : List Char} {host : Option Host} {port : Option Nat}
    (h : splitHost true cs = .ok (host, port, rest)) : ∃ name, host = some name := by
  unfold splitHost at h
  simp only at h
  split at h
  · split at h
    · cases h
    · exact exists_host_of_hostAndPort h
  · exact exists_host_of_hostAndPort h

/-- Where hosts are looked up an authority names one. -/
theorem location_of_readAuthority {scheme cs : List Char} {u : Url}
    (h : readAuthority scheme true cs = .ok u) :
    ∃ host port path, u.location = .path (some host) port path := by
  unfold readAuthority at h
  split at h
  · cases h
  next host port rest hs =>
    obtain ⟨name, rfl⟩ := exists_host_of_splitHost hs
    cases h
    exact ⟨name, port, _, rfl⟩

theorem scheme_of_readAuthority {scheme cs : List Char} {known : Bool} {u : Url}
    (h : readAuthority scheme known cs = .ok u) : u.scheme = scheme := by
  unfold readAuthority at h
  split at h
  · cases h
  · cases h
    rfl

theorem scheme_of_readFile {scheme cs : List Char} {u : Url} (h : readFile scheme cs = .ok u) :
    u.scheme = scheme := by
  unfold readFile at h
  simp only at h
  split at h
  · split at h
    · split at h
      · cases h
      · cases h
        rfl
    · cases h
      rfl
  · cases h
    rfl

/-- Behind a scheme that says how hosts are looked up stands an authority. -/
theorem readAuthority_of_read {s : String} {u : Url} (h : Url.read s = .ok u)
    (hk : kindOf u.scheme = .known) : ∃ cs, readAuthority u.scheme true cs = .ok u := by
  unfold Url.read readChars at h
  split at h
  · cases h
  next scheme rest _ =>
    split at h
    · exact ⟨_, (scheme_of_readAuthority h).symm ▸ h⟩
    next hs =>
      rw [scheme_of_readFile h, hs] at hk
      cases hk
    next hs =>
      have : u.scheme = scheme := by
        split at h
        · exact scheme_of_readAuthority h
        · cases h
          rfl
        · cases h
          rfl
      rw [this, hs] at hk
      cases hk

theorem location_of_read {s : String} {u : Url} (h : Url.read s = .ok u)
    (hk : kindOf u.scheme = .known) :
    ∃ host port path, u.location = .path (some host) port path := by
  obtain ⟨cs, hcs⟩ := readAuthority_of_read h hk
  exact location_of_readAuthority hcs

section path

/-- The path at a place is one that was read; `known` says whether hosts are looked up. -/
def Location.IsRead (known : Bool) (location : Location) : Prop :=
  ∀ host port path, location = .path host port path → ∃ front, path = readPath known front

theorem isRead_path (host : Option Host) (port : Option Nat) (known : Bool) (front : List Char) :
    (Location.path host port (readPath known front)).IsRead known := by
  rintro _ _ _ ⟨⟩
  exact ⟨front, rfl⟩

theorem isRead_of_readAuthority {scheme cs : List Char} {known : Bool} {u : Url}
    (h : readAuthority scheme known cs = .ok u) : u.location.IsRead known := by
  unfold readAuthority at h
  split at h
  · cases h
  · cases h
    exact isRead_path _ _ _ _

theorem isRead_of_readFile {scheme cs : List Char} {u : Url} (h : readFile scheme cs = .ok u) :
    u.location.IsRead true := by
  unfold readFile at h
  simp only at h
  split at h
  · split at h
    · split at h
      · cases h
      · cases h
        exact isRead_path _ _ _ _
    · cases h
      exact isRead_path _ _ _ _
  · cases h
    exact isRead_path _ _ _ _

theorem isRead_of_read {s : String} {u : Url} (h : Url.read s = .ok u) :
    ∃ known, u.location.IsRead known := by
  unfold Url.read readChars at h
  split at h
  · cases h
  · split at h
    · exact ⟨true, isRead_of_readAuthority h⟩
    · exact ⟨true, isRead_of_readFile h⟩
    · split at h
      · exact ⟨false, isRead_of_readAuthority h⟩
      · cases h
        exact ⟨false, isRead_path _ _ _ _⟩
      · cases h
        exact ⟨false, nofun⟩

/-- A path that is read begins with a slash, to which segments are added; only where hosts are not
looked up can there be no path. -/
theorem readPath_cases (known : Bool) (front : List Char) :
    readPath known front = (if known then ['/'] else []) ∨
      ∃ text, readPath known front = Path.read known ['/'] text := by
  unfold readPath
  split
  · exact .inl rfl
  · split <;> exact .inr ⟨_, rfl⟩

/-- No path has the sign of a query in it. -/
theorem question_not_mem_readPath (known : Bool) (front : List Char) :
    '?' ∉ readPath known front := by
  rcases readPath_cases known front with h | ⟨text, h⟩
  · rw [h]
    split <;> decide
  · rw [h]
    refine Path.read_induction (P := fun p => '?' ∉ p) (by decide) (fun p cs slash hp hc => ?_) _ _
    rcases Path.mem_add hc with hc | hc | hc
    · exact hp hc
    · exact not_mem_percentEncode (by decide) (by decide) (by decide) cs hc
    · cases hc

theorem isRooted_readPath (front : List Char) : Path.IsRooted (readPath true front) := by
  rcases readPath_cases true front with h | ⟨text, h⟩
  · rw [h]
    rfl
  · rw [h]
    exact Path.read_induction (P := Path.IsRooted) (show ['/'].head? = some '/' from rfl)
      (fun _ _ slash hp => hp.add _ slash) _ _

end path

end PortShare.Url
