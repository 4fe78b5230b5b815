import Mathlib.Data.List.Forall2
import PortShare.Settings.Merge

/-!
The token among the settings. What it is makes no difference to the other settings nor to whether
they are in order, as long as it is not blank and no file refers to it. -/

namespace PortShare

def IsBlank (s : String) : Prop := s.toList.all Category.isWhiteSpace = true

/-- Texts that can stand for each other as tokens: the same, or none of them blank. -/
def Interchangeable (s t : String) : Prop := s = t ∨ (¬ IsBlank s ∧ ¬ IsBlank t)

theorem Interchangeable.refl (s : String) : Interchangeable s s := .inl rfl

theorem Interchangeable.requireText {s t : String} (h : Interchangeable s t) (field : String) :
    requireText field s = requireText field t := by
  rcases h with rfl | ⟨hs, ht⟩
  · rfl
  · unfold IsBlank at hs ht
    unfold PortShare.requireText
    rw [if_neg hs, if_neg ht]

namespace Variables

/-- The variable that holds the token. -/
def tokenName : String := "DEVURL_TOKEN"

/-- The environments are the same but for the token. -/
def SameButToken (vars vars' : Variables) : Prop :=
  List.Forall₂ (fun a b => a = b ∨
    a.1 = tokenName ∧ b.1 = tokenName ∧ Interchangeable a.2 b.2) vars vars'

theorem get?_cons (key value : String) (vars : Variables) (name : String) :
    get? ((key, value) :: vars) name =
      if name.toList ++ ['='] <+: key.toList ++ '=' :: value.toList then
        some (String.ofList ((key.toList ++ '=' :: value.toList).drop (name.toList.length + 1)))
      else get? vars name := by
  unfold get?
  rw [List.findSome?_cons]
  simp only [← List.isPrefixOf_iff_prefix, List.length_append, List.length_singleton]
  split
  next h => split at h <;> simp_all
  next h => split at h <;> simp_all

/-- The entry of the token is found only under names that start with the token's. -/
theorem prefix_of_match {name : String} {value : List Char}
    (h : name.toList ++ ['='] <+: tokenName.toList ++ '=' :: value) :
    tokenName.toList <+: name.toList := by
  have ht : tokenName.toList ++ ['='] <+: tokenName.toList ++ '=' :: value :=
    ⟨value, by simp⟩
  rcases List.prefix_or_prefix_of_prefix ht h with h | h
  · have hl := h.length_le
    simp only [List.length_append, List.length_singleton] at hl
    exact List.prefix_of_prefix_length_le ((List.prefix_append _ _).trans h)
      (List.prefix_append _ _) (Nat.le_of_succ_le_succ hl)
  · rcases List.prefix_concat_iff.mp h with h | h
    · exact List.append_cancel_right h ▸ List.prefix_rfl
    · exact absurd (h.subset (List.mem_append_right _ (List.mem_singleton_self '='))) (by decide)

section environments

variable {vars vars' : Variables}

theorem SameButToken.get?_eq_of_no_match (h : SameButToken vars vars') {name : String}
    (hn : ∀ value, ¬ name.toList ++ ['='] <+: tokenName.toList ++ '=' :: value) :
    vars.get? name = vars'.get? name := by
  induction h with
  | nil => rfl
  | @cons a b _ _ hab _ ih =>
    obtain ⟨key, value⟩ := a
    obtain ⟨key', value'⟩ := b
    rw [get?_cons, get?_cons, ih]
    rcases hab with hab | ⟨rfl, rfl, -⟩
    · cases hab
      rfl
    · rw [if_neg (hn _), if_neg (hn _)]

theorem SameButToken.get?_eq (h : SameButToken vars vars') (name : String)
    (hn : ¬ tokenName.toList <+: name.toList) : vars.get? name = vars'.get? name :=
  h.get?_eq_of_no_match fun _ => mt prefix_of_match hn

/-- Of the names that can be those of variables only the token's own has different values. -/
theorem SameButToken.get?_eq_of_ne (h : SameButToken vars vars') {name : String}
    (hs : '=' ∉ name.toList) (hn : name ≠ tokenName) : vars.get? name = vars'.get? name := by
  refine h.get?_eq_of_no_match fun value hm => ?_
  obtain ⟨rest, hrest⟩ := prefix_of_match hm
  rw [← hrest, List.append_assoc, List.prefix_append_right_inj] at hm
  cases rest with
  | nil => exact hn (String.toList_injective (hrest.symm.trans (List.append_nil _)))
  | cons c rest =>
    obtain ⟨rfl, -⟩ := List.cons_prefix_cons.mp hm
    exact hs (hrest ▸ List.mem_append_right _ List.mem_cons_self)

theorem SameButToken.get?_token (h : SameButToken vars vars') :
    Option.Rel Interchangeable (vars.get? tokenName) (vars'.get? tokenName) := by
  induction h with
  | nil => exact .none
  | @cons a b _ _ hab _ ih =>
    obtain ⟨key, value⟩ := a
    obtain ⟨key', value'⟩ := b
    rw [get?_cons, get?_cons]
    rcases hab with hab | ⟨rfl, rfl, hv⟩
    · cases hab
      split
      · exact .some (.refl _)
      · exact ih
    · have found (value : String) : tokenName.toList ++ ['='] <+:
          tokenName.toList ++ '=' :: value.toList := ⟨value.toList, by simp⟩
      rw [if_pos (found value), if_pos (found value')]
      refine .some ?_
      have drops (value : String) : (tokenName.toList ++ '=' :: value.toList).drop
          (tokenName.toList.length + 1) = value.toList := by
        rw [← List.drop_drop, List.drop_left]
        rfl
      rwa [drops, drops, String.ofList_toList, String.ofList_toList]

/-- Environments that are not the same both have a token. -/
theorem SameButToken.eq_or_isSome (h : SameButToken vars vars') :
    vars = vars' ∨ (vars.get? tokenName).isSome := by
  induction h with
  | nil => exact .inl rfl
  | @cons a b _ _ hab _ ih =>
    obtain ⟨key, value⟩ := a
    obtain ⟨key', value'⟩ := b
    rw [get?_cons]
    rcases hab with hab | ⟨rfl, rfl, -⟩
    · cases hab
      rcases ih with rfl | ih
      · exact .inl rfl
      · refine .inr ?_
        split
        · rfl
        · exact ih
    · rw [if_pos ⟨value.toList, by simp⟩]
      exact .inr rfl

end environments

end Variables

namespace Reference

variable {value? : List Char → Option (List Char)} {name rest after : List Char}

theorem of_name? (h : name? rest = some (name, after)) : name <+: rest ∧ after <:+ rest := by
  unfold name? at h
  simp only at h
  split at h
  · cases h
  · cases h
  next hd _ =>
    cases h
    exact ⟨List.takeWhile_prefix _, (List.suffix_cons _ _).trans (hd ▸ List.drop_suffix _ _)⟩

theorem substitute_of_name (h : name? rest = some (name, after)) :
    substitute value? ('$' :: '\x7b' :: rest) =
      (value? name).getD (write name) ++ substitute value? after := by
  rw [substitute, if_pos ⟨rfl, rfl⟩]
  split
  next h' =>
    cases h.symm.trans h'
    rfl
  next h' => cases h.symm.trans h'

theorem substitute_of_no_name (h : name? rest = none) :
    substitute value? ('$' :: '\x7b' :: rest) = '$' :: substitute value? ('\x7b' :: rest) := by
  rw [substitute, if_pos ⟨rfl, rfl⟩]
  split
  next h' => cases h.symm.trans h'
  next => rfl

/-- A text without a reference to the token becomes the same text, whatever the token is. -/
theorem substitute_congr {value?' : List Char → Option (List Char)} {token : List Char}
    (hv : ∀ name, ¬ token <+: name → value? name = value?' name) (cs : List Char)
    (h : ¬ '$' :: '\x7b' :: token <:+: cs) : substitute value? cs = substitute value?' cs := by
  fun_induction substitute value? cs with
  | case1 => rw [substitute]
  | case2 => rw [substitute]
  | case3 c d rest hc name after hn _ ih =>
    obtain ⟨rfl, rfl⟩ := hc
    obtain ⟨hname, hafter⟩ := of_name? hn
    rw [substitute_of_name hn, ih fun hi => h (hi.trans ?_), hv name fun ht => h ?_]
    · exact List.IsPrefix.isInfix (List.cons_prefix_cons.mpr
        ⟨rfl, List.cons_prefix_cons.mpr ⟨rfl, ht.trans hname⟩⟩)
    · exact (hafter.trans ((List.suffix_cons _ _).trans (List.suffix_cons _ _))).isInfix
  | case4 c d rest hc hn ih =>
    obtain ⟨rfl, rfl⟩ := hc
    rw [substitute_of_no_name hn, ih fun hi => h (hi.trans (List.suffix_cons _ _).isInfix)]
  | case5 c d rest hc ih =>
    conv_rhs => rw [substitute]
    rw [if_neg hc, ih fun hi => h (hi.trans (List.suffix_cons _ _).isInfix)]

end Reference

/-- Results of two runs: the same failure, or values that are related. -/
inductive ResultRel {ε α β : Type} (R : α → β → Prop) : Except ε α → Except ε β → Prop where
  | ok {a : α} {b : β} : R a b → ResultRel R (.ok a) (.ok b)
  | error (e : ε) : ResultRel R (.error e) (.error e)

namespace ResultRel

variable {ε α β γ δ : Type} {R : α → β → Prop} {S : γ → δ → Prop}

theorem refl (x : Except ε α) : ResultRel Eq x x := by
  cases x with
  | ok a => exact .ok rfl
  | error e => exact .error e

theorem elim {x : Except ε α} {y : Except ε β} (h : ResultRel R x y) :
    (∃ e, x = .error e ∧ y = .error e) ∨ ∃ a b, x = .ok a ∧ y = .ok b ∧ R a b := by
  cases h with
  | ok hab => exact .inr ⟨_, _, rfl, rfl, hab⟩
  | error e => exact .inl ⟨e, rfl, rfl⟩

theorem mono {R' : α → β → Prop} {x : Except ε α} {y : Except ε β} (h : ResultRel R x y)
    (hr : ∀ a b, R a b → R' a b) : ResultRel R' x y := by
  cases h with
  | ok hab => exact .ok (hr _ _ hab)
  | error e => exact .error e

theorem bind {x : Except ε α} {y : Except ε β} {f : α → Except ε γ} {g : β → Except ε δ}
    (h : ResultRel R x y) (hfg : ∀ a b, R a b → ResultRel S (f a) (g b)) :
    ResultRel S (x >>= f) (y >>= g) := by
  cases h with
  | ok hab => exact hfg _ _ hab
  | error e => exact .error e

theorem map {x : Except ε α} {y : Except ε β} {f : α → γ} {g : β → δ} (h : ResultRel R x y)
    (hfg : ∀ a b, R a b → S (f a) (g b)) : ResultRel S (x.map f) (y.map g) := by
  cases h with
  | ok hab => exact .ok (hfg _ _ hab)
  | error e => exact .error e

end ResultRel

section options

variable {α : Type} {R : α → α → Prop}

theorem rel_refl (h : ∀ a, R a a) (a : Option α) : Option.Rel R a a := by
  cases a with
  | none => exact .none
  | some a => exact .some (h a)

theorem rel_orElse {a a' b c : Option α} (h : Option.Rel R a a')
    (hb : a = none → Option.Rel R b c) : Option.Rel R (a <|> b) (a' <|> c) := by
  cases h with
  | none => exact hb rfl
  | some h => exact .some h

theorem rel_isNone {a b : Option α} (h : Option.Rel R a b) : a.isNone = b.isNone := by
  cases h <;> rfl

end options

namespace FileSettings

/-- Apart from the token the files say the same. -/
def Agree (a b : FileSettings) : Prop := a.url = b.url ∧ a.timeout = b.timeout

/-- A file says the same in two environments: its text comes to the same, or both texts can be read
and agree. What is wrong in a text that cannot be read is shown with the text around it. -/
def SaysTheSame (vars vars' : Variables) (text : String) : Prop :=
  vars.substitute text = vars'.substitute text ∨
    ∃ a b, parse vars text = .ok a ∧ parse vars' text = .ok b ∧ a.Agree b

variable {vars vars' : Variables} {text : String}

/-- A file that does not refer to the token comes to the same, whatever the token is. -/
theorem substitute_eq (h : vars.SameButToken vars')
    (ht : ¬ '$' :: '\x7b' :: Variables.tokenName.toList <:+: text.toList) :
    vars.substitute text = vars'.substitute text := by
  unfold Variables.substitute
  rw [Reference.substitute_congr (fun name hn => ?_) _ ht]
  rw [h.get?_eq _ (by rwa [String.toList_ofList])]

theorem SaysTheSame.parse (h : SaysTheSame vars vars' text) :
    ResultRel Agree (parse vars text) (parse vars' text) := by
  rcases h with h | ⟨a, b, ha, hb, hab⟩
  · unfold FileSettings.parse
    rw [h]
    refine (ResultRel.refl _).mono ?_
    rintro a _ rfl
    exact ⟨rfl, rfl⟩
  · rw [ha, hb]
    exact .ok hab

end FileSettings

namespace Settings

/-- Settings that are the same but for the token. -/
structure SameButToken (a b : Settings) : Prop where
  url : a.url = b.url
  token : Interchangeable a.token b.token
  timeout : a.timeout = b.timeout

theorem SameButToken.check {a b : Settings} (h : a.SameButToken b) : a.check = b.check := by
  unfold Settings.check
  rw [h.url, h.token.requireText, h.timeout]

theorem SameButToken.shown {a b : Settings} (h : a.SameButToken b) : a.shown = b.shown := by
  unfold Settings.shown
  rw [h.url, h.timeout]

/-- Settings are merged alike, where the token of a file does not count or is the same. -/
theorem merge_alike {given given' : GivenSettings} {file file' : FileSettings}
    (hurl : given.url = given'.url) (htoken : Option.Rel Interchangeable given.token given'.token)
    (htimeout : given.timeout = given'.timeout) (hf : file.Agree file')
    (hfile : file = file' ∨ given.token.isSome) :
    ResultRel SameButToken (merge given file) (merge given' file') := by
  unfold merge
  rw [hurl, htimeout, hf.1, hf.2]
  cases given'.url <|> file'.url with
  | none => exact .error _
  | some url =>
    have ht := rel_orElse htoken (b := file.token) (c := file'.token) fun hn => by
      rcases hfile with rfl | h
      · exact rel_refl .refl _
      · rw [hn] at h
        cases h
    generalize (given.token <|> file.token) = x at ht ⊢
    generalize (given'.token <|> file'.token) = y at ht ⊢
    cases ht with
    | none => exact .error _
    | some h => exact .ok ⟨rfl, h, rfl⟩

end Settings

end PortShare
