import PortShare.CommandLine.Read
import PortShare.Proofs.Settings.Token

/-!
The token on the command line. Lines that differ in the values of its option alone are taken in step
by step in the same way: both are refused for the same reason, or they ask for the same. -/

namespace PortShare.CommandLine

/-- Lines of arguments that are the same but for the values of the token's option. -/
inductive SameButToken : List String → List String → Prop where
  | nil : SameButToken [] []
  | same {a : String} {as bs : List String} :
    a ≠ "--" → SameButToken as bs → SameButToken (a :: as) (a :: bs)
  /-- Behind two dashes there are no options. -/
  | divided (as : List String) : SameButToken ("--" :: as) ("--" :: as)
  | joined {s t : String} {as bs : List String} : Interchangeable s t → SameButToken as bs →
    SameButToken (("--token=" ++ s) :: as) (("--token=" ++ t) :: bs)
  /-- A value on its own does not look like an option. -/
  | apart {s t : String} {as bs : List String} : Interchangeable s t →
    Spelling.of s = .plain → Spelling.of t = .plain → SameButToken as bs →
    SameButToken ("--token" :: s :: as) ("--token" :: t :: bs)

/-- Values that an option can have in two such lines. -/
def Stands (setting : Setting) (s t : String) : Prop :=
  s = t ∨ setting = .token ∧ Interchangeable s t

theorem Stands.refl (setting : Setting) (s : String) : Stands setting s s := .inl rfl

namespace Values

def withoutToken (v : Values) : Values := { v with token := none }

/-- The values are the same but for that of the token. -/
structure Alike (v w : Values) : Prop where
  others : v.withoutToken = w.withoutToken
  token : Option.Rel Interchangeable v.token w.token

theorem Alike.refl (v : Values) : v.Alike v := ⟨rfl, rel_refl .refl _⟩

variable {v w : Values}

/-- What is read off the other values is the same. -/
theorem Alike.map {α : Type} (h : v.Alike w) (f : Values → α)
    (hf : ∀ u, f u = f u.withoutToken) : f v = f w := by
  rw [hf, h.others, ← hf]

/-- What is done to the other values is done to both. -/
theorem Alike.update (h : v.Alike w) (f : Values → Values)
    (hf : ∀ u, (f u).withoutToken = f u.withoutToken) (ht : ∀ u, (f u).token = u.token) :
    (f v).Alike (f w) := by
  refine ⟨?_, ?_⟩
  · rw [hf, hf, h.others]
  · rw [ht, ht]
    exact h.token

theorem Alike.has_eq (h : v.Alike w) (setting : Setting) : v.has setting = w.has setting := by
  cases setting with
  | token =>
    have ht := rel_isNone h.token
    rwa [← Option.not_isSome, ← Option.not_isSome, Bool.not_inj_iff] at ht
  | url | config | timeout | output | access | name => exact h.map (Values.has · _) fun _ => rfl

theorem Alike.put (h : v.Alike w) {setting : Setting} {s t : String} (hst : Stands setting s t) :
    ResultRel Alike (v.put setting s) (w.put setting t) := by
  unfold Values.put
  rw [h.has_eq]
  split
  · exact .error _
  · rcases hst with rfl | ⟨rfl, hst⟩
    · cases setting with
      | token => exact .ok ⟨h.others, .some (.refl s)⟩
      | url => exact .ok (h.update (fun u => { u with url := some s }) (fun _ => rfl) fun _ => rfl)
      | access =>
        exact .ok (h.update (fun u => { u with access := some s }) (fun _ => rfl) fun _ => rfl)
      | name =>
        exact .ok (h.update (fun u => { u with name := some s }) (fun _ => rfl) fun _ => rfl)
      | config =>
        exact (ResultRel.refl (checkConfig s)).map fun _ _ _ =>
          h.update (fun u => { u with config := some s }) (fun _ => rfl) fun _ => rfl
      | timeout =>
        exact (ResultRel.refl (readTimeout s)).map fun n _ hn => hn ▸
          h.update (fun u => { u with timeout := some n }) (fun _ => rfl) fun _ => rfl
      | output =>
        exact (ResultRel.refl (readFormat s)).map fun f _ hf => hf ▸
          h.update (fun u => { u with output := some f }) (fun _ => rfl) fun _ => rfl
    · exact .ok ⟨h.others, .some hst⟩

theorem Alike.flip (h : v.Alike w) (switch : Switch) :
    ResultRel Alike (v.flip switch) (w.flip switch) := by
  cases switch with
  | help => exact .error _
  | verbose =>
    simp only [Values.flip, h.map Values.verbose fun _ => rfl]
    split
    · exact .error _
    · exact .ok (h.update (fun u => { u with verbose := true }) (fun _ => rfl) fun _ => rfl)
  | logJson =>
    simp only [Values.flip, h.map Values.logJson fun _ => rfl]
    split
    · exact .error _
    · exact .ok (h.update (fun u => { u with logJson := true }) (fun _ => rfl) fun _ => rfl)

theorem Alike.orElse {v' w' : Values} (h : v.Alike w) (h' : v'.Alike w') :
    (v.orElse v').Alike (w.orElse w') := by
  have ho (a b : Values) :
    (a.orElse b).withoutToken = a.withoutToken.orElse b.withoutToken := rfl
  refine ⟨?_, rel_orElse h.token fun _ => h'.token⟩
  rw [ho, ho, h.others, h'.others]

theorem eq_blank_iff (v : Values) : v = {} ↔ v.withoutToken = {} ∧ v.token.isNone = true := by
  constructor
  · rintro rfl
    exact ⟨rfl, rfl⟩
  · rintro ⟨h, ht⟩
    calc
      v = { v.withoutToken with token := v.token } := rfl
      _ = {} := by rw [h, Option.isNone_iff_eq_none.mp ht]

theorem Alike.eq_blank_iff (h : v.Alike w) : v = {} ↔ w = {} := by
  rw [Values.eq_blank_iff v, Values.eq_blank_iff w, h.others, rel_isNone h.token]

end Values

/-- Options that are pending in both lines. -/
structure Pending.Alike (p q : Pending) : Prop where
  setting : p.setting = q.setting
  value : Option.Rel (Stands p.setting) p.value q.value

namespace Progress

/-- The lines have been read equally far, and both or none of them to behind two dashes. -/
structure Alike (divided : Bool) (p q : Progress) : Prop where
  values : p.values.Alike q.values
  pending : Option.Rel Pending.Alike p.pending q.pending
  arguments : p.arguments = q.arguments
  left : p.divided = divided
  right : q.divided = divided

theorem Alike.refl (p : Progress) : p.Alike p.divided p :=
  ⟨.refl _, rel_refl (fun r => ⟨rfl, rel_refl (.refl r.setting) _⟩) _, rfl, rfl, rfl⟩

variable {divided : Bool} {p q : Progress}

theorem Alike.settle (h : p.Alike divided q) :
    ResultRel (Alike divided) p.settle q.settle := by
  obtain ⟨values, pending, arguments, left⟩ := p
  obtain ⟨values', pending', arguments', right⟩ := q
  obtain ⟨hv, hp, ha, hl, hr⟩ := h
  cases hp with
  | none => exact .ok ⟨hv, .none, ha, hl, hr⟩
  | @some a b hab =>
    obtain ⟨setting, value⟩ := a
    obtain ⟨setting', value'⟩ := b
    obtain ⟨rfl, hs⟩ := hab
    cases hs with
    | none => exact .error _
    | some hst => exact (hv.put hst).map fun _ _ h => ⟨h, .none, ha, hl, hr⟩

theorem Alike.start (h : p.Alike divided q) {setting : Setting} {s t : Option String}
    (hst : Option.Rel (Stands setting) s t) :
    ResultRel (Alike divided) (p.start setting s) (q.start setting t) := by
  cases hst with
  | none =>
    exact h.settle.bind fun _ _ hab =>
      .ok ⟨hab.values, .some ⟨rfl, .none⟩, hab.arguments, hab.left, hab.right⟩
  | some hst =>
    exact h.settle.bind fun _ _ hab => (hab.values.put hst).bind fun _ _ hvw =>
      .ok ⟨hvw, hab.pending, hab.arguments, hab.left, hab.right⟩

theorem Alike.flip (h : p.Alike divided q) (switch : Switch) :
    ResultRel (Alike divided) (p.flip switch) (q.flip switch) :=
  h.settle.bind fun _ _ hab => (hab.values.flip switch).bind fun _ _ hvw =>
    .ok ⟨hvw, hab.pending, hab.arguments, hab.left, hab.right⟩

theorem Alike.takeLong (h : p.Alike divided q) (level : Level) (name : String)
    (value : Option String) :
    ResultRel (Alike divided) (p.takeLong level name value) (q.takeLong level name value) := by
  unfold Progress.takeLong
  split
  · exact .error _
  · exact h.flip _
  · exact .error _
  · exact h.start (rel_refl (.refl _) _)

theorem Alike.takeLetters (h : p.Alike divided q) (level : Level) (cs : List Char) :
    ResultRel (Alike divided) (takeLetters level cs p) (takeLetters level cs q) := by
  induction cs generalizing p q with
  | nil => exact .ok h
  | cons c cs ih =>
    unfold Progress.takeLetters
    split
    · exact .error _
    · exact (h.flip _).bind fun _ _ hab => ih hab
    · exact h.start (rel_refl (.refl _) _)

theorem Alike.takeArgument (h : p.Alike divided q) (level : Level) (argument : String) :
    ResultRel (Alike divided) (p.takeArgument level argument) (q.takeArgument level argument) := by
  unfold Progress.takeArgument Progress.misplaced
  rw [h.arguments, h.left, h.right]
  split
  · exact h.settle.map fun _ _ hab =>
      ⟨hab.values, hab.pending, congrArg (· ++ [argument]) hab.arguments, hab.left, hab.right⟩
  · exact .error _

theorem Alike.takePlain (h : p.Alike divided q) (level : Level) (argument : String) :
    ResultRel (Alike divided) (p.takePlain level argument) (q.takePlain level argument) := by
  have ha := h.takeArgument level argument
  have hp := h.pending
  unfold Progress.takePlain
  generalize p.pending = a at hp ⊢
  generalize q.pending = b at hp ⊢
  cases hp with
  | none => exact ha
  | @some a b hab =>
    obtain ⟨setting, value⟩ := a
    obtain ⟨setting', value'⟩ := b
    obtain ⟨rfl, hv⟩ := hab
    cases hv with
    | none => exact .ok ⟨h.values, .some ⟨rfl, .some (.refl _ _)⟩, h.arguments, h.left, h.right⟩
    | some => exact ha

/-- One argument is taken in by both, and it alone decides whether it divides the line. -/
theorem Alike.take (h : p.Alike divided q) (level : Level) (argument : String) :
    ResultRel (Alike (divided || Spelling.of argument == .divider)) (p.take level argument)
      (q.take level argument) := by
  unfold Progress.take
  rw [h.left, h.right]
  cases divided with
  | true => exact h.takeArgument level argument
  | false =>
    simp only [Bool.false_eq_true, if_false, Bool.false_or]
    cases Spelling.of argument with
    | divider => exact .ok ⟨h.values, h.pending, h.arguments, rfl, rfl⟩
    | long name value => exact h.takeLong level name value
    | letters cs => exact h.takeLetters level cs
    | plain => exact h.takePlain level argument

theorem Alike.awaitsValue_eq (h : p.Alike divided q) : p.awaitsValue = q.awaitsValue := by
  have hp := h.pending
  unfold Progress.awaitsValue
  generalize p.pending = a at hp ⊢
  generalize q.pending = b at hp ⊢
  cases hp with
  | none => rfl
  | @some a b hab =>
    obtain ⟨setting, value⟩ := a
    obtain ⟨setting', value'⟩ := b
    obtain ⟨rfl, hv⟩ := hab
    cases hv <;> rfl

end Progress

/-- Levels that have been read in two lines: both ask for the same. -/
structure Reading.Alike (r r' : Reading) : Prop where
  values : r.values.Alike r'.values
  action : r.action = r'.action

variable {vars vars' : Variables}

theorem standIns_eq (hv : vars.SameButToken vars') :
    standIns.all (fun name => (vars.get? name).isNone) =
      standIns.all (fun name => (vars'.get? name).isNone) := by
  have hu := hv.get?_eq "DEVURL_URL" (by decide)
  have hc := hv.get?_eq "DEVURL_CONFIG" (by decide)
  have ht : (vars.get? "DEVURL_TOKEN").isNone = (vars'.get? "DEVURL_TOKEN").isNone :=
    rel_isNone hv.get?_token
  simp only [standIns, List.all_cons, List.all_nil, hu, hc, ht]

theorem close_alike (hv : vars.SameButToken vars') {divided : Bool} {p q : Progress}
    (h : p.Alike divided q) (level : Level) {inner inner' : Option Reading}
    (hi : Option.Rel Reading.Alike inner inner') :
    ResultRel Reading.Alike (close vars level inner p) (close vars' level inner' q) := by
  unfold close
  refine h.settle.bind fun a b hab => ?_
  have hc : checkVariables vars a.values = checkVariables vars' b.values := by
    unfold checkVariables
    rw [hab.values.map Values.config fun _ => rfl, hv.get?_eq _ (by decide)]
  rw [hc]
  refine (ResultRel.refl (checkVariables vars' b.values)).bind fun _ _ _ => ?_
  have ended : ResultRel (ε := Refusal) Reading.Alike
      (if a.values = {} ∧ standIns.all (fun name => (vars.get? name).isNone) then
        .error .nothingGiven else .error .missingSubcommand)
      (if b.values = {} ∧ standIns.all (fun name => (vars'.get? name).isNone) then
        .error .nothingGiven else .error .missingSubcommand) := by
    simp only [hab.values.eq_blank_iff, standIns_eq hv]
    split <;> exact .error _
  have entered {r r' : Reading} (hr : r.Alike r') : ResultRel (ε := Refusal) Reading.Alike
      (.ok ⟨r.values.orElse a.values, r.action⟩) (.ok ⟨r'.values.orElse b.values, r'.action⟩) :=
    .ok ⟨hr.values.orElse hab.values, hr.action⟩
  cases level with
  | root | urls =>
    cases hi with
    | none => exact ended
    | some hr => exact entered hr
  | verb v =>
    simp only
    rw [hab.values.map (Action.of? · v a.arguments) fun _ => rfl, hab.arguments]
    split
    · exact .ok ⟨hab.values, rfl⟩
    · exact .error _

/-- No subcommand begins with a dash. -/
theorem subcommand?_of_dash (level : Level) {name : String} (h : name.toList.head? = some '-') :
    level.subcommand? name = none := by
  have hne {s : String} (hs : s.toList.head? ≠ some '-') : name ≠ s := by
    rintro rfl
    exact hs h
  have hverb : Verb.ofName? name = none := by
    unfold Verb.ofName?
    split
    all_goals first
      | exact absurd rfl (hne (by decide))
      | rfl
  unfold Level.subcommand?
  split
  · exact absurd rfl (hne (by decide))
  · exact absurd rfl (hne (by decide))
  · exact absurd rfl (hne (by decide))
  · rw [hverb]
    rfl
  · rfl

theorem joined_head? (s : String) : ("--token=" ++ s).toList.head? = some '-' := by
  rw [String.toList_append, List.head?_append]
  rfl

theorem SameButToken.isEmpty_eq {as bs : List String} (h : SameButToken as bs) :
    as.isEmpty = bs.isEmpty := by
  cases h <;> rfl

theorem help_congr {as bs : List String} (h : SameButToken as bs) (level : Level) :
    help level as = help level bs := by
  induction h generalizing level with
  | nil => rfl
  | same _ has ih =>
    unfold help
    split
    · exact ih _
    · rw [has.isEmpty_eq]
    · rfl
  | divided as => rfl
  | joined =>
    unfold help
    rw [subcommand?_of_dash level (joined_head? _), subcommand?_of_dash level (joined_head? _)]
  | apart =>
    unfold help
    rw [subcommand?_of_dash level (by decide)]

/-- One step of reading, where the same argument comes next in both lines. -/
theorem readLevel_cons_alike (hv : vars.SameButToken vars') {divided : Bool} {p q : Progress}
    (h : p.Alike divided q) (level : Level) (argument : String) {as bs : List String}
    (hhelp : help level as = help level bs)
    (hnext : ∀ next, ResultRel Reading.Alike (readLevel vars next {} as)
      (readLevel vars' next {} bs))
    (hrest : ∀ p q, Progress.Alike (divided || Spelling.of argument == .divider) p q →
      ResultRel Reading.Alike (readLevel vars level p as) (readLevel vars' level q bs)) :
    ResultRel Reading.Alike (readLevel vars level p (argument :: as))
      (readLevel vars' level q (argument :: bs)) := by
  unfold readLevel
  rw [h.left, h.right, h.awaitsValue_eq, hhelp]
  split
  · exact .error _
  · exact (hnext _).bind fun _ _ hr => close_alike hv h level (.some hr)
  · exact (h.take level argument).bind hrest

theorem of_joined (s : String) : Spelling.of ("--token=" ++ s) = .long "token" (some s) := by
  have hl : ("--token=" ++ s).toList =
      '-' :: '-' :: 't' :: 'o' :: 'k' :: 'e' :: 'n' :: '=' :: s.toList := by
    rw [String.toList_append]
    rfl
  unfold Spelling.of
  rw [hl]
  change Spelling.long (String.ofList ['t', 'o', 'k', 'e', 'n'])
    (some (String.ofList s.toList)) = _
  rw [String.ofList_toList]

theorem eq_of_divider {a : String} (h : Spelling.of a = .divider) : a = "--" := by
  unfold Spelling.of at h
  split at h
  next ha => exact String.toList_inj.mp ha
  · simp only at h
    split at h <;> cases h
  · cases h
  · cases h

theorem long?_token (level : Level) : level.long? "token" = some (.setting .token) := by
  cases level with
  | root | urls => rfl
  | verb v => cases v <;> rfl

/-- What begins with a dash is no subcommand, and taken in. -/
theorem readLevel_of_dash {argument : String} (h : argument.toList.head? = some '-')
    (level : Level) (p : Progress) (as : List String) :
    readLevel vars level p (argument :: as) =
      p.take level argument >>= fun p => readLevel vars level p as := by
  rw [readLevel, subcommand?_of_dash level h, ite_self]

theorem take_joined (level : Level) {p : Progress} (h : p.divided = false) (s : String) :
    p.take level ("--token=" ++ s) = p.start .token (some s) := by
  rw [Progress.take, h, of_joined]
  simp only [Bool.false_eq_true, if_false, Progress.takeLong, long?_token]

/-- A value that follows the option of the token waits to be judged. -/
theorem readLevel_apart (level : Level) {p : Progress} (hp : p.divided = false) {s : String}
    (hs : Spelling.of s = .plain) (as : List String) :
    readLevel vars level p ("--token" :: s :: as) = p.settle >>= fun p =>
      readLevel vars level { p with pending := some ⟨.token, some s⟩ } as := by
  have ht : p.take level "--token" = p.start .token none := by
    have ho : Spelling.of "--token" = .long "token" none := by decide
    rw [Progress.take, hp, ho]
    simp only [Bool.false_eq_true, if_false, Progress.takeLong, long?_token]
  rw [readLevel_of_dash (by decide), ht, Progress.start, bind_assoc]
  have hd := (Progress.Alike.refl p).settle
  cases hset : p.settle with
  | error e => rfl
  | ok p' =>
    rw [hset] at hd
    cases hd with
    | ok hd =>
      change readLevel vars level { p' with pending := some ⟨.token, none⟩ } (s :: as) = _
      have hd : p'.divided = false := hd.left.trans hp
      simp only [readLevel, Progress.awaitsValue, Bool.or_true, if_true, Progress.take, hd,
        Bool.false_eq_true, if_false, hs, Progress.takePlain, bind, Except.bind]

/-- The same arguments are taken in alike, before and behind two dashes. -/
theorem readLevel_alike_of_eq (hv : vars.SameButToken vars') (level : Level) (as : List String)
    {divided : Bool} {p q : Progress} (h : p.Alike divided q) :
    ResultRel Reading.Alike (readLevel vars level p as) (readLevel vars' level q as) := by
  induction as generalizing level divided p q with
  | nil => exact close_alike hv h level .none
  | cons a as ih =>
    exact readLevel_cons_alike hv h level a rfl (fun next => ih next (.refl {}))
      fun p q hpq => ih level hpq

theorem readLevel_alike (hv : vars.SameButToken vars') {as bs : List String}
    (hab : SameButToken as bs) (level : Level) {p q : Progress} (h : p.Alike false q) :
    ResultRel Reading.Alike (readLevel vars level p as) (readLevel vars' level q bs) := by
  induction hab generalizing level p q with
  | nil => exact close_alike hv h level .none
  | divided as => exact readLevel_alike_of_eq hv level _ h
  | @same a as bs ha has ih =>
    refine readLevel_cons_alike hv h level a (help_congr has level)
      (fun next => ih next (.refl {})) fun p q hpq => ih level ?_
    rwa [Bool.false_or, beq_false_of_ne (mt eq_of_divider ha)] at hpq
  | joined hst has ih =>
    rw [readLevel_of_dash (joined_head? _), readLevel_of_dash (joined_head? _),
      take_joined level h.left, take_joined level h.right]
    exact (h.start (.some (.inr ⟨rfl, hst⟩))).bind fun p q hpq => ih level hpq
  | apart hst hs ht has ih =>
    rw [readLevel_apart level h.left hs, readLevel_apart level h.right ht]
    refine h.settle.bind fun p q hpq => ih level ?_
    exact ⟨hpq.values, .some ⟨rfl, .some (.inr ⟨rfl, hst⟩)⟩, hpq.arguments, hpq.left, hpq.right⟩

/-- What two lines ask for, where they can be understood: the same but for the token. -/
structure Invocation.Alike (i j : Invocation) : Prop where
  url : i.url = j.url
  token : Option.Rel Interchangeable i.token j.token
  config : i.config = j.config
  timeout : i.timeout = j.timeout
  verbose : i.verbose = j.verbose
  logJson : i.logJson = j.logJson
  action : i.action = j.action

/-- Lines that differ in the token alone are refused for the same reason, or ask for the same. -/
theorem read_alike (hv : vars.SameButToken vars') {as bs : List String}
    (hab : SameButToken as bs) :
    ResultRel Invocation.Alike (read vars as) (read vars' bs) := by
  refine (readLevel_alike hv hab .root (.refl {})).map fun r r' hr => ?_
  have hu := hv.get?_eq "DEVURL_URL" (by decide)
  have hc := hv.get?_eq "DEVURL_CONFIG" (by decide)
  exact {
    url := by rw [hr.values.map Values.url fun _ => rfl, hu]
    token := rel_orElse hr.values.token fun _ => hv.get?_token
    config := by rw [hr.values.map Values.config fun _ => rfl, hc]
    timeout := hr.values.map Values.timeout fun _ => rfl
    verbose := hr.values.map Values.verbose fun _ => rfl
    logJson := hr.values.map Values.logJson fun _ => rfl
    action := hr.action }

end PortShare.CommandLine
