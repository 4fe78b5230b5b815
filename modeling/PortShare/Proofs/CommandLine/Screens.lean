import PortShare.CommandLine.Screens
import PortShare.Proofs.CommandLine.Token

/-! Screens that give no token away. The variable of an option that hides it is shown without its
value, and an argument is quoted only if it is refused, which a value of the token's option never
is. -/

namespace PortShare.CommandLine

/-- The variable of an option that keeps its value from screens. -/
def IsHidden (name : String) : Prop :=
  ∃ s : Setting, s.standIn = some name ∧ s.hidesVariable = true

/-- Environments that are the same but for the values of hidden variables. -/
def SameButHidden (vars vars' : Variables) : Prop :=
  ∀ name : String, '=' ∉ name.toList → vars.get? name = vars'.get? name ∨
    IsHidden name ∧ (vars.get? name).isSome = (vars'.get? name).isSome

/-- What the library for command lines keeps to itself. -/
structure Screens.Discreet (screens : Screens) : Prop where
  /-- The values of hidden variables. -/
  hides : ∀ as {vars vars' : Variables} r, SameButHidden vars vars' →
    screens as vars r = screens as vars' r
  /-- The values of the token's option, every one of which will do. But behind `help` no options are
  known, and whatever names no subcommand is quoted. -/
  quotes : ∀ {as bs : List String} {vars : Variables} {r : Refusal}, SameButToken as bs →
    "help" ∉ as → read vars as = .error r → screens as vars r = screens bs vars r

theorem isHidden_tokenName : IsHidden Variables.tokenName := ⟨.token, rfl, rfl⟩

/-- The name of the token is the one variable that differs. -/
theorem SameButHidden.of_sameButToken {vars vars' : Variables} (h : vars.SameButToken vars') :
    SameButHidden vars vars' := by
  intro name hn
  by_cases ht : name = Variables.tokenName
  · subst ht
    refine .inr ⟨isHidden_tokenName, ?_⟩
    have hrel := h.get?_token
    generalize vars.get? Variables.tokenName = a at hrel
    generalize vars'.get? Variables.tokenName = b at hrel
    cases hrel <;> rfl
  · exact .inl (h.get?_eq_of_ne hn ht)

/-- A variable stands in for one option. -/
theorem Setting.standIn_inj {s s' : Setting} {name : String} (h : s.standIn = some name)
    (h' : s'.standIn = some name) : s = s' := by
  cases s <;> cases h <;> cases s' <;> first
    | rfl
    | exact absurd h' (by decide)

/-- Help shows the same of an option wherever its variable differs only if it is hidden. -/
theorem Setting.shownVariable_congr {vars vars' : Variables} (h : SameButHidden vars vars')
    (s : Setting) : s.shownVariable vars = s.shownVariable vars' := by
  unfold Setting.shownVariable
  cases hs : s.standIn with
  | none => rfl
  | some name =>
    dsimp only
    split
    · rfl
    next hv =>
      have hname : '=' ∉ name.toList := by
        cases s <;> cases hs <;> decide
      rcases h name hname with heq | ⟨⟨s', hs', hv'⟩, -⟩
      · rw [heq]
      · have hsame : s' = s := Setting.standIn_inj hs' hs
        exact absurd (hsame ▸ hv') hv

/-- Screens without quotations that show no hidden variable give nothing away. -/
theorem Screens.discreet_plain : Screens.plain.Discreet where
  hides as vars vars' r h := by
    have hhelp : Screens.help vars = Screens.help vars' := by
      unfold Screens.help
      simp only [Setting.shownVariable_congr h]
    unfold Screens.plain
    rw [hhelp]
  quotes _ _ _ := rfl

end PortShare.CommandLine
