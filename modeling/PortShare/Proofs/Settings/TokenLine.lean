import PortShare.Proofs.Settings.Unclosed
import PortShare.Proofs.Toml.Difference
import PortShare.Proofs.Toml.Quoted
import PortShare.Settings.File

/-! A token that a file takes from a variable. The value is put between the quotes before the file is
read: without quotes and backslashes in it, it is the token and nothing else. -/

namespace PortShare

namespace FileSettings

open Toml (Item Table Document)

/-- Settings in which the token has been read with a different text each, if it has been `read`, and
which are the same otherwise. -/
def Retold (s s' : String) (read : Bool) (a a' : FileSettings) : Prop :=
  if read then a.token = some s ∧ a' = { a with token := some s' } else a = a'

section retold

variable {s s' : String} {read : Bool} {a a' : FileSettings}

theorem rel_retold_refl (x : Option FileSettings) : Option.Rel (Retold s s' false) x x := by
  cases x with
  | none => exact .none
  | some a => exact .some rfl

/-- An entry with another key has nothing to do with the token. -/
theorem put_other (h : Retold s s' read a a') {key : String} (hkey : key ≠ "session_token")
    (item : Item) : Option.Rel (Retold s s' read) (put a (key, item)) (put a' (key, item)) := by
  cases read with
  | false =>
    obtain rfl : a = a' := h
    exact rel_retold_refl _
  | true =>
    obtain ⟨htoken, rfl⟩ : a.token = some s ∧ a' = { a with token := some s' } := h
    by_cases hurl : key = "url"
    · subst hurl
      simp only [put]
      cases text? item with
      | none => exact .none
      | some url => exact .some ⟨htoken, rfl⟩
    by_cases htimeout : key = "timeout_seconds"
    · subst htimeout
      simp only [put]
      cases seconds? item with
      | none => exact .none
      | some timeout => exact .some ⟨htoken, rfl⟩
    · simp only [put]
      split
      · exact .some ⟨htoken, rfl⟩
      · exact .none

theorem eq_map_of_retold {x x' : Option FileSettings} (h : Option.Rel (Retold s s' true) x x') :
    x = x'.map fun a => { a with token := some s } := by
  cases h with
  | none => rfl
  | some h =>
    obtain ⟨htoken, rfl⟩ := h
    rw [Option.map_some, ← htoken]

theorem put_retold (h : Retold s s' read a a') {e e' : String × Item}
    (he : Toml.EntryDiffers "session_token" (Item.Differ s s' []) e e') :
    Option.Rel (Retold s s' (read || e.1 == "session_token")) (put a e) (put a' e') := by
  obtain ⟨key, item⟩ := e
  obtain ⟨_, item'⟩ := e'
  obtain ⟨rfl, hitem⟩ := he
  by_cases hkey : key = "session_token"
  · subst hkey
    rw [if_pos rfl] at hitem
    obtain ⟨rfl, rfl⟩ : item = .text s ∧ item' = .text s' := hitem
    rw [beq_self_eq_true, Bool.or_true]
    refine .some ⟨rfl, ?_⟩
    cases read with
    | false => rw [show a = a' from h]
    | true => rw [(show a.token = some s ∧ a' = { a with token := some s' } from h).2]
  · rw [if_neg hkey] at hitem
    simp only at hitem
    rw [← hitem, beq_false_of_ne hkey, Bool.or_false]
    exact put_other h hkey item

/-- The entries of a table, of which one bears the key, are read one after another. -/
theorem foldlM_retold {key : String} {R : Item → Item → Prop}
    (f : FileSettings → String × Item → Option FileSettings)
    (step : ∀ {read a a' e e'}, Retold s s' read a a' → Toml.EntryDiffers key R e e' →
      Option.Rel (Retold s s' (read || e.1 == key)) (f a e) (f a' e'))
    {t t' : Table} (h : Table.Differ key R t t') :
    Option.Rel (Retold s s' true) (t.2.foldlM f {}) (t'.2.foldlM f {}) := by
  have fold {es es' : List (String × Item)} (hes : List.Forall₂ (Toml.EntryDiffers key R) es es') :
      ∀ {read a a'}, Retold s s' read a a' →
        Option.Rel (Retold s s' (read || es.any fun e => e.1 == key)) (es.foldlM f a)
          (es'.foldlM f a') := by
    induction hes with
    | nil => exact fun h => .some (by simpa using h)
    | @cons e e' es es' he _ ih =>
      intro read a a' h
      have hstep := step h he
      simp only [List.foldlM_cons]
      generalize f a e = x, f a' e' = x' at hstep ⊢
      cases hstep with
      | none => exact .none
      | some h =>
        rw [List.any_cons, ← Bool.or_assoc]
        exact ih h
  have hrel := fold h.entries (show Retold s s' false {} {} from rfl)
  rwa [Table.any_key_iff.mpr h.has, Bool.or_true] at hrel

theorem ofItem_retold {item item' : Item} (h : Item.Differ s s' ["session_token"] item item') :
    Option.Rel (Retold s s' true) (ofItem item) (ofItem item') := by
  obtain ⟨origin, es, es', rfl, rfl, h⟩ := h
  exact foldlM_retold put (fun ha he => put_retold ha he) h

/-- What is read from two documents that differ in the text of the token. -/
theorem ofRoot_retold {t t' : Table}
    (h : Table.Differ "service" (Item.Differ s s' ["session_token"]) t t') :
    Option.Rel (Retold s s' true) (ofRoot t) (ofRoot t') := by
  refine foldlM_retold _ ?_ h
  intro read a a' e e' ha he
  obtain ⟨key, item⟩ := e
  obtain ⟨_, item'⟩ := e'
  obtain ⟨rfl, hitem⟩ := he
  by_cases hkey : key = "service"
  · subst hkey
    rw [if_pos rfl] at hitem
    rw [beq_self_eq_true, Bool.or_true]
    exact ofItem_retold hitem
  · rw [if_neg hkey] at hitem
    simp only at hitem
    rw [← hitem, beq_false_of_ne hkey, Bool.or_false]
    simp only [if_neg hkey]
    split
    · exact .some ha
    · exact .none

end retold

/-- A document without the byte order mark that may stand in front of it. -/
def withoutMark : List Char → List Char
  | '\uFEFF' :: cs => cs
  | cs => cs

/-- The lines read so far end in the table of the service. -/
def isInService (d : Document) : Bool :=
  d.header == ["service"] && match d.root.get? "service" with
    | some (.table ..) => true
    | _ => false

/-- A file that sets the token on a line of its own, to a text in double quotes. -/
structure TokenFile where
  /-- The lines in front of that one. -/
  front : String
  indent : String
  before : String
  behind : String
  /-- All that follows the quotes. -/
  back : String
  isEnded : Toml.IsEnded front.toList
  inService :
    (Document.lines ⟨(.written, []), []⟩ (withoutMark front.toList)).any isInService = true
  blank : (indent ++ before ++ behind).toList.all Toml.isBlank = true
  endsLine : (Toml.lineEnd back.toList).isSome = true
  isLiteral : Reference.IsLiteral front.toList
  noReference : ∀ name, Reference.IsName name → ¬ Reference.write name <:+: back.toList

namespace TokenFile

variable (f : TokenFile)

/-- The line of the token up to the first of the quotes. -/
def opening : String := f.indent ++ "session_token" ++ f.before ++ "=" ++ f.behind ++ "\""

/-- The file with a text between the quotes. -/
def text (token : String) : String := f.front ++ f.opening ++ token ++ ("\"" ++ f.back)

/-- What stands behind the first of the quotes. -/
def behindQuote (token : String) : List Char := token.toList ++ '"' :: f.back.toList

theorem toList_text (token : String) : (f.text token).toList =
    f.front.toList ++ (f.indent.toList ++ ("session_token".toList ++ (f.before.toList ++
      '=' :: (f.behind.toList ++ '"' :: f.behindQuote token)))) := by
  simp [text, opening, behindQuote]

end TokenFile

theorem read_eq (s : String) : Toml.read s =
    (Document.lines ⟨(.written, []), []⟩ (withoutMark s.toList)).map Document.root := rfl

theorem withoutMark_append {cs : List Char} (h : Toml.IsEnded cs) :
    Toml.IsEnded (withoutMark cs) ∧ ∀ more, withoutMark (cs ++ more) = withoutMark cs ++ more := by
  obtain ⟨c, cs, rfl⟩ := List.exists_cons_of_ne_nil h.ne_nil
  by_cases hc : c = '\uFEFF'
  · subst hc
    exact ⟨h.tail (by decide), fun _ => rfl⟩
  · have plain (cs : List Char) : withoutMark (c :: cs) = c :: cs := by
      unfold withoutMark
      split <;> simp_all
    rw [plain]
    exact ⟨h, fun more => plain _⟩

/-- One text or another as the token makes no other difference. -/
theorem add_differ {d : Document} (h : isInService d = true) (s s' : String) :
    Option.Rel (Document.Differ s s' "service" ["session_token"])
      (d.add (.entry ["session_token"] (.text s)))
      (d.add (.entry ["session_token"] (.text s'))) := by
  obtain ⟨root, header⟩ := d
  rw [isInService, Bool.and_eq_true, beq_iff_eq] at h
  obtain ⟨rfl, h⟩ := h
  simp only at h
  split at h
  next origin es hservice =>
    have insert_eq (s : String) : Table.insert ["session_token"] (.text s) (origin, es) =
        if (origin = .dotted ↔ ([] : List String) = []) ∨
          (Table.get? (origin, es) "session_token").isSome then none
        else some (Table.put (origin, es) "session_token" (.text s)) := rfl
    simp only [Document.add, Table.change, hservice, insert_eq]
    split
    · exact .none
    · split
      · exact .none
      · have hinner : Table.Differ "session_token" (Item.Differ s s' [])
            (Table.put (origin, es) "session_token" (.text s))
            (Table.put (origin, es) "session_token" (.text s')) :=
          Table.differ_put (origin, es) ⟨rfl, rfl⟩
        exact .some ⟨rfl, Table.differ_put root (Item.differ_table hinner)⟩
  · cases h

/-- The settings in a text without references. -/
def settings? (s : String) : Option FileSettings := (Toml.read s).bind ofRoot

namespace TokenFile

variable (f : TokenFile)

/-- The lines are read up to the quotes, and then what is in them. -/
theorem read_text : ∃ d, isInService d = true ∧ ∀ token, Toml.read (f.text token) =
    ((Toml.runText ('"' :: f.behindQuote token)).bind fun (t, rest) =>
      (d.add (.entry ["session_token"] (.text (String.ofList t)))).bind fun d =>
        (Toml.lineEnd rest).bind fun after => Document.lines d after).map Document.root := by
  obtain ⟨d, hlines, hd⟩ := (Option.any_eq_true _ _).mp f.inService
  obtain ⟨hended, happend⟩ := withoutMark_append f.isEnded
  have hblank (s : String) (hs : s.toList ⊆ (f.indent ++ f.before ++ f.behind).toList) :
      ∀ c ∈ s.toList, Toml.isBlank c = true := fun c hc =>
      List.all_eq_true.mp f.blank c (hs hc)
  have hkey : ∀ c ∈ "session_token".toList, Toml.isBareKeyChar c = true :=
    List.all_eq_true.mp (by decide)
  have hindent := hblank f.indent (by simp)
  have hbefore := hblank f.before (by simp)
  have hbehind := hblank f.behind (by simp)
  refine ⟨d, hd, fun token => ?_⟩
  rw [read_eq, f.toList_text, happend, Document.lines_append hended hlines,
    Toml.lines_bare d hindent (by decide) hkey hbefore hbehind, String.ofList_toList]

section quoted

variable {token : String} {t rest : List Char}

/-- The quotes do not open a text of several lines. -/
theorem runText_behindQuote (h : ¬ ['"', '"'] <+: token.toList ++ ['"']) :
    Toml.runText ('"' :: f.behindQuote token) = Toml.quotedText (f.behindQuote token) := by
  refine Toml.runText_quoted fun hlong => ?_
  unfold behindQuote at hlong
  cases htoken : token.toList with
  | nil =>
    rw [htoken] at hlong
    obtain ⟨rest, hrest⟩ := (List.cons_prefix_cons.mp hlong).2
    have hends := f.endsLine
    rw [← hrest] at hends
    cases hends
  | cons c tail =>
    have hfront : token.toList ++ ['"'] <+: token.toList ++ '"' :: f.back.toList :=
      (List.prefix_append_right_inj _).mpr (List.prefix_append _ _)
    refine h (List.prefix_of_prefix_length_le hlong hfront ?_)
    simp [htoken]

/-- The rest of a file is read as it is with nothing between the quotes. -/
theorem settings_retold (hquotes : ¬ ['"', '"'] <+: token.toList ++ ['"'])
    (hquoted : Toml.quotedText (f.behindQuote token) = some (t, rest))
    (hend : Toml.lineEnd rest = Toml.lineEnd f.back.toList) :
    Option.Rel (Retold (String.ofList t) "" true) (settings? (f.text token))
      (settings? (f.text "")) := by
  obtain ⟨d, hd, hread⟩ := f.read_text
  have hempty : Toml.runText ('"' :: f.behindQuote "") = some ([], f.back.toList) := by
    rw [f.runText_behindQuote (by decide), behindQuote, String.toList_empty, List.nil_append,
      Toml.quotedText]
  have hadd := add_differ hd (String.ofList t) ""
  rw [settings?, settings?, hread, hread, f.runText_behindQuote hquotes, hquoted, hempty]
  simp only [Option.bind_some, hend, String.ofList_nil]
  generalize d.add (.entry ["session_token"] (.text (String.ofList t))) = x,
    d.add (.entry ["session_token"] (.text "")) = x' at hadd ⊢
  cases hadd with
  | none => exact .none
  | @some d₁ d₂ hdocument =>
    obtain ⟨after, hafter⟩ := Option.isSome_iff_exists.mp f.endsLine
    simp only [Option.bind_some, hafter]
    have hlines := hdocument.lines after
    generalize d₁.lines after = y, d₂.lines after = y' at hlines ⊢
    cases hlines with
    | none => exact .none
    | some h => exact ofRoot_retold h.root

theorem settings_eq_none (hquotes : ¬ ['"', '"'] <+: token.toList ++ ['"'])
    (hquoted : ∀ t rest, Toml.quotedText (f.behindQuote token) = some (t, rest) →
      Toml.lineEnd rest = none) : settings? (f.text token) = none := by
  obtain ⟨d, hd, hread⟩ := f.read_text
  rw [settings?, hread, f.runText_behindQuote hquotes]
  cases h : Toml.quotedText (f.behindQuote token) with
  | none => rfl
  | some r =>
    simp only [Option.bind_some, hquoted r.1 r.2 h, Option.bind_none, Option.bind_fun_none]
    rfl

/-- On one line, or without quotes, the line goes on behind the quotes as it is written. -/
theorem lineEnd_of_quoted (hline : '"' ∉ token.toList ∨ '\n' ∉ token.toList)
    (hquoted : Toml.quotedText (f.behindQuote token) = some (t, rest)) :
    Toml.lineEnd rest = none ∨ Toml.lineEnd rest = Toml.lineEnd f.back.toList := by
  obtain ⟨taken, htaken, hbreak⟩ := Toml.quotedText_keeps_line hquoted
  have hbreak' : '\n' ∉ token.toList := by
    refine hline.elim (fun hquote => ?_) id
    rcases List.append_eq_append_iff.mp htaken with ⟨more, rfl, -⟩ | ⟨more, htoken, hmore⟩
    · exact fun hn => hbreak (List.mem_append_left _ hn)
    · cases more with
      | nil => rwa [htoken, List.append_nil]
      | cons c more =>
        obtain ⟨rfl, -⟩ := List.cons.inj hmore
        exact absurd (htoken ▸ List.mem_append_right _ List.mem_cons_self) hquote
  cases hend : Toml.lineEnd rest with
  | none => exact .inl rfl
  | some after =>
    obtain ⟨after', hafter'⟩ := Option.isSome_iff_exists.mp f.endsLine
    rw [hafter', Toml.lineEnd_unique htaken hbreak' hbreak hafter' hend]
    exact .inr rfl

end quoted

theorem not_mem_opening {c : Char} (hblank : Toml.isBlank c = false)
    (hc : c ∉ ("session_token" ++ "=" ++ "\"").toList) : c ∉ f.opening.toList := by
  have hspace : c ∉ (f.indent ++ f.before ++ f.behind).toList := fun hm => by
    cases hblank.symm.trans (List.all_eq_true.mp f.blank c hm)
  simp only [opening, String.toList_append, List.mem_append, not_or] at hspace hc ⊢
  exact ⟨⟨⟨⟨⟨hspace.1.1, hc.1.1⟩, hspace.1.2⟩, hc.1.2⟩, hspace.2⟩, hc.2⟩

/-- A reference between the quotes is the only one in the file. -/
theorem substitute_text (vars : Variables) {name value : String}
    (hname : Reference.IsName name.toList) (hvalue : vars.get? name = some value) :
    vars.substitute (f.text (Variables.reference name)) = f.text value := by
  have keep (s : String) (h : Reference.substitute
      (fun name => (vars.get? (String.ofList name)).map String.toList) s.toList = s.toList) :
      vars.substitute s = s := by
    rw [Variables.substitute, h, String.ofList_toList]
  have hfront : Reference.IsLiteral (f.front ++ f.opening).toList := by
    rw [String.toList_append]
    exact f.isLiteral.append (f.not_mem_opening rfl (by decide)) (f.not_mem_opening rfl (by decide))
  have hback : ∀ name, Reference.IsName name →
      ¬ Reference.write name <:+: ("\"" ++ f.back).toList := by
    intro name hname hinside
    rw [String.toList_append] at hinside
    rcases List.infix_cons_iff.mp hinside with hstarts | hinside
    · cases (List.cons_prefix_cons.mp hstarts).1
    · exact f.noReference name hname hinside
  rw [text, Variables.substitute_around vars hfront.not_leavesOpen hname, hvalue, Option.getD_some,
    keep _ (Reference.substitute_of_isLiteral hfront),
    keep _ (Reference.substitute_of_no_reference hback), text]

end TokenFile

theorem substitute_nil (s : String) : Variables.substitute [] s = s := by
  rw [Variables.substitute, ← String.toList_inj, String.toList_ofList]
  exact Reference.substitute_none _

theorem parse_eq (vars : Variables) (s : String) : parse vars s =
    match settings? (vars.substitute s) with
    | some a => .ok a
    | none => .error (.configuration "TOML parsing error") := rfl

theorem not_quotes_of_not_mem {cs : List Char} (h : '"' ∉ cs) : ¬ ['"', '"'] <+: cs ++ ['"'] := by
  cases cs with
  | nil => decide
  | cons c cs =>
    intro hquotes
    obtain ⟨rfl, -⟩ := List.cons_prefix_cons.mp hquotes
    exact h List.mem_cons_self

/-- A token that a file takes from a variable. Loading fails with an error of configuration or not at
all. Any value without quotes and backslashes becomes the token, as long as all of its characters can
stand in a file, and the rest is as the file writes it. No value that stays on one line or has no
quotes changes another setting, unless it turns the quotes into those of a text of several lines. -/
theorem value_between_quotes (f : TokenFile) {vars : Variables} {name value : String}
    (hname : Reference.IsName name.toList) (hvalue : vars.get? name = some value) :
    (∀ e, parse vars (f.text (Variables.reference name)) = .error e →
      e = .configuration "TOML parsing error") ∧
    ('"' ∉ value.toList → '\\' ∉ value.toList →
      parse vars (f.text (Variables.reference name)) =
        if value.toList.all Toml.isVisible then
          (parse [] (f.text "")).map fun a => { a with token := some value }
        else .error (.configuration "TOML parsing error")) ∧
    (('"' ∉ value.toList ∨ '\n' ∉ value.toList) → ¬ ['"', '"'] <+: value.toList ++ ['"'] →
      ∀ a, parse vars (f.text (Variables.reference name)) = .ok a →
        ∃ written, parse [] (f.text "") = .ok written ∧ a.url = written.url ∧
          a.timeout = written.timeout) := by
  rw [parse_eq, parse_eq, f.substitute_text vars hname hvalue, substitute_nil]
  refine ⟨fun e he => ?_, fun hquote hslash => ?_, fun hline hquotes a ha => ?_⟩
  · split at he
    · cases he
    · cases he
      rfl
  · have hquotes := not_quotes_of_not_mem hquote
    have hplain (c : Char) (hc : c ∈ value.toList) : c ≠ '"' ∧ c ≠ '\\' :=
      ⟨ne_of_mem_of_not_mem hc hquote, ne_of_mem_of_not_mem hc hslash⟩
    have hquoted := Toml.quotedText_plain hplain f.back.toList
    by_cases hvisible : value.toList.all Toml.isVisible = true
    · rw [if_pos hvisible] at hquoted
      have hrel := f.settings_retold hquotes hquoted rfl
      rw [if_pos hvisible, eq_map_of_retold hrel, String.ofList_toList]
      cases settings? (f.text "") <;> rfl
    · rw [if_neg hvisible] at hquoted
      rw [if_neg hvisible,
        f.settings_eq_none hquotes fun t rest h => nomatch hquoted.symm.trans h]
  · cases hquoted : Toml.quotedText (f.behindQuote value) with
    | none =>
      rw [f.settings_eq_none hquotes fun t rest h => nomatch hquoted.symm.trans h] at ha
      cases ha
    | some r =>
      obtain ⟨t, rest⟩ := r
      rcases f.lineEnd_of_quoted hline hquoted with hend | hend
      · rw [f.settings_eq_none hquotes fun t' rest' h => ?_] at ha
        · cases ha
        · cases hquoted.symm.trans h
          exact hend
      · rw [eq_map_of_retold (f.settings_retold hquotes hquoted hend)] at ha
        cases hwritten : settings? (f.text "") with
        | none =>
          rw [hwritten] at ha
          cases ha
        | some written =>
          rw [hwritten] at ha
          cases ha
          exact ⟨written, rfl, rfl, rfl⟩

/-- A file with a line for each of the settings. -/
def serviceFile : TokenFile where
  front := "[service]\nurl = \"http://localhost\"\n"
  indent := ""
  before := " "
  behind := " "
  back := "\ntimeout_seconds = 5\n"
  isEnded := rfl
  inService := by decide +kernel
  blank := by decide
  endsLine := by decide +kernel
  isLiteral := Reference.isLiteral_of_not_mem (by decide)
  noReference := fun _ _ h => absurd (h.subset List.mem_cons_self) (by decide)

/-- A plain value is the token of this file, and one with an escape in it leaves the rest alone. -/
theorem values_in_service_file :
    let load (value : String) :=
      parse [("TOKEN", value)] (serviceFile.text (Variables.reference "TOKEN"))
    (load "abc").toOption = some ⟨some "http://localhost", some "abc", some 5⟩ ∧
    load "abc" = (parse [] (serviceFile.text "")).map (fun a => { a with token := some "abc" }) ∧
    ∀ a, load "a\\tb" = .ok a → ∃ written, parse [] (serviceFile.text "") = .ok written ∧
      a.url = written.url ∧ a.timeout = written.timeout := by
  have hname : Reference.IsName "TOKEN".toList := ⟨by decide, by decide⟩
  have hplain : Variables.get? [("TOKEN", "abc")] "TOKEN" = some "abc" := by decide
  have hescape : Variables.get? [("TOKEN", "a\\tb")] "TOKEN" = some "a\\tb" := by decide
  exact ⟨by decide +kernel,
    (value_between_quotes serviceFile hname hplain).2.1 (by decide) (by decide),
    (value_between_quotes serviceFile hname hescape).2.2 (by decide) (by decide)⟩

/-- A quote in a value ends the token, so that the value can set the address. -/
theorem quote_sets_url :
    let text := "[service]\nsession_token = \"" ++ Variables.reference "T" ++ "\"\n"
    (parse [] text).toOption = some { token := some (Variables.reference "T") } ∧
    (parse [("T", "x\"\nurl = \"http://evil")] text).toOption =
      some { url := some "http://evil", token := some "x" } ∧
    (parse [("T", "a\\tb")] text).toOption = some { token := some "a\tb" } := by
  decide +kernel

end FileSettings

end PortShare
