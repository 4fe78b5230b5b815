import PortShare.CommandLine.Read

/-! What the environment adds to a command line. A line that is understood is understood alike
without the environment, which gives only what the line leaves open. -/

namespace PortShare.CommandLine

variable {vars : Variables}

theorem close_bare {level : Level} {inner : Option Reading} {p : Progress} {r : Reading}
    (h : close vars level inner p = .ok r) : close [] level inner p = .ok r := by
  unfold close at h ⊢
  cases hs : p.settle with
  | error e =>
    rw [hs] at h
    cases h
  | ok q =>
    have hbare : checkVariables [] q.values = .ok () := by
      unfold checkVariables
      cases q.values.config <;> rfl
    simp only [hs, hbare, bind, Except.bind] at h ⊢
    cases hc : checkVariables vars q.values with
    | error e =>
      rw [hc] at h
      cases h
    | ok _ =>
      simp only [hc] at h
      split at h
      · exact h
      · exact h
      · split at h <;> cases h

theorem readLevel_bare {arguments : List String} {r : Reading} :
    ∀ {level : Level} {p : Progress}, readLevel vars level p arguments = .ok r →
      readLevel [] level p arguments = .ok r := by
  induction arguments generalizing r with
  | nil => exact close_bare
  | cons argument rest ih =>
    intro level p h
    rw [readLevel] at h ⊢
    split at h
    · cases h
    · next next hsub =>
      cases hi : readLevel vars next {} rest with
      | error e =>
        rw [hi] at h
        cases h
      | ok inner =>
        rw [hi] at h
        rw [ih hi]
        exact close_bare h
    · cases ht : p.take level argument with
      | error e =>
        rw [ht] at h
        cases h
      | ok q =>
        rw [ht] at h
        exact ih h

/-- What is understood of a line comes from the line itself, or where the line leaves it open, from
the environment. -/
structure Completes (vars : Variables) (line i : Invocation) : Prop where
  url : i.url = (line.url <|> vars.get? "DEVURL_URL")
  token : i.token = (line.token <|> vars.get? "DEVURL_TOKEN")
  config : i.config = (line.config <|> vars.get? "DEVURL_CONFIG")
  timeout : i.timeout = line.timeout
  action : i.action = line.action

theorem read_bare {arguments : List String} {i : Invocation} (h : read vars arguments = .ok i) :
    ∃ line, read [] arguments = .ok line ∧ Completes vars line i := by
  unfold read at h ⊢
  cases hr : readLevel vars .root {} arguments with
  | error e =>
    rw [hr] at h
    cases h
  | ok r =>
    rw [hr] at h
    cases h
    rw [readLevel_bare hr]
    have bare (o : Option String) (name : String) : (o <|> Variables.get? [] name) = o := by
      cases o <;> rfl
    exact ⟨_, rfl, by simp only [bare], by simp only [bare], by simp only [bare], rfl, rfl⟩

end PortShare.CommandLine
