import Mathlib.Data.List.TakeWhile
import PortShare.Proofs.Settings.Token

/-!
Texts as they are written in a file: literal text with references in it. What variables make of such
a text is the same text with a value in the place of each reference, put in once and as it is. -/

namespace PortShare

namespace Reference

/-- What can stand between the braces of a reference. -/
structure IsName (name : List Char) : Prop where
  ne_nil : name ≠ []
  not_mem : '\x7d' ∉ name

/-- Text without a reference: a brace that would open one is closed at once. -/
def IsLiteral (cs : List Char) : Prop :=
  ∀ rest, '$' :: '\x7b' :: rest <:+ cs → rest.head? = some '\x7d'

/-- Nothing, or a reference that nothing closes. -/
def IsOpen (cs : List Char) : Prop :=
  cs = [] ∨ ∃ rest, cs = '$' :: '\x7b' :: rest ∧ '\x7d' ∉ rest

/-- A reference and the literal text behind it. -/
structure Piece where
  name : List Char
  literal : List Char
  isName : IsName name
  isLiteral : IsLiteral literal

/-- A text by its parts. -/
structure Template where
  front : List Char
  pieces : List Piece
  back : List Char
  isLiteral : IsLiteral front
  isOpen : IsOpen back

/-- The text with something in the place of each reference. -/
def Template.fill (t : Template) (put : List Char → List Char) : List Char :=
  t.front ++ (t.pieces.flatMap (fun p => put p.name ++ p.literal) ++ t.back)

def Template.text (t : Template) : List Char := t.fill write

section parts

variable {c : Char} {name cs rest : List Char}

theorem IsLiteral.nil : IsLiteral [] := fun _ h => nomatch List.suffix_nil.mp h

theorem IsLiteral.cons_iff : IsLiteral (c :: cs) ↔
    (∀ rest, c = '$' → cs = '\x7b' :: rest → rest.head? = some '\x7d') ∧ IsLiteral cs := by
  constructor
  · refine fun h => ⟨?_, fun rest hr => h rest (hr.trans (List.suffix_cons _ _))⟩
    rintro rest rfl rfl
    exact h rest List.suffix_rfl
  · rintro ⟨hhead, htail⟩ rest hr
    rcases List.suffix_cons_iff.mp hr with he | hr
    · obtain ⟨rfl, rfl⟩ := List.cons.inj he
      exact hhead rest rfl rfl
    · exact htail rest hr

theorem IsOpen.head? (h : IsOpen cs) : cs.head? ≠ some '\x7b' := by
  rcases h with rfl | ⟨rest, rfl, -⟩ <;> simp

theorem takeWhile_ne_append (h : c ∉ cs) (rest : List Char) :
    (cs ++ c :: rest).takeWhile (· != c) = cs := by
  rw [List.takeWhile_append_of_pos fun d hd => bne_iff_ne.mpr (ne_of_mem_of_not_mem hd h)]
  simp

theorem name?_append (h : IsName name) (rest : List Char) :
    name? (name ++ '\x7d' :: rest) = some (name, rest) := by
  have htake := takeWhile_ne_append h.not_mem rest
  obtain ⟨c, name, rfl⟩ := List.exists_cons_of_ne_nil h.ne_nil
  simp only [name?, htake, List.drop_left]

theorem name?_closed (rest : List Char) : name? ('\x7d' :: rest) = none := by
  simp [name?]

theorem name?_of_not_mem (h : '\x7d' ∉ cs) : name? cs = none := by
  have htake : cs.takeWhile (· != '\x7d') = cs :=
    List.takeWhile_eq_self_iff.mpr fun c hc => bne_iff_ne.mpr (ne_of_mem_of_not_mem hc h)
  rw [name?, htake, List.drop_length]
  cases cs <;> rfl

end parts

section substituting

variable {value? : List Char → Option (List Char)} {c : Char} {name cs rest : List Char}

theorem substitute_cons (h : ¬ (c = '$' ∧ cs.head? = some '\x7b')) :
    substitute value? (c :: cs) = c :: substitute value? cs := by
  cases cs with
  | nil => simp only [substitute]
  | cons d cs =>
    rw [substitute, if_neg]
    exact fun hcd => h ⟨hcd.1, congrArg some hcd.2⟩

/-- Where no reference is closed, nothing is put in. -/
theorem substitute_of_not_mem (h : '\x7d' ∉ cs) : substitute value? cs = cs := by
  induction cs with
  | nil => rw [substitute]
  | cons c cs ih =>
    have ih := ih fun hm => h (List.mem_cons_of_mem _ hm)
    by_cases hc : c = '$' ∧ cs.head? = some '\x7b'
    · obtain ⟨rfl, hbrace⟩ := hc
      obtain ⟨cs, rfl⟩ := List.head?_eq_some_iff.mp hbrace
      have hcs : '\x7d' ∉ cs := fun hm => h (List.mem_cons_of_mem _ (List.mem_cons_of_mem _ hm))
      rw [substitute_of_no_name (name?_of_not_mem hcs), ih]
    · rw [substitute_cons hc, ih]

theorem substitute_open (h : IsOpen cs) : substitute value? cs = cs := by
  rcases h with rfl | ⟨rest, rfl, hrest⟩
  · rw [substitute]
  · exact substitute_of_not_mem (by simpa using hrest)

/-- Literal text is left alone, unless what follows it makes a reference of its last sign. -/
theorem substitute_literal (h : IsLiteral cs) (hrest : rest.head? ≠ some '\x7b') :
    substitute value? (cs ++ rest) = cs ++ substitute value? rest := by
  induction cs with
  | nil => rfl
  | cons c cs ih =>
    obtain ⟨hc, hcs⟩ := IsLiteral.cons_iff.mp h
    have ih := ih hcs
    by_cases hbrace : c = '$' ∧ (cs ++ rest).head? = some '\x7b'
    · -- the brace belongs to the literal, and so does the one that closes it
      obtain ⟨rfl, hbrace⟩ := hbrace
      cases cs with
      | nil => exact absurd hbrace hrest
      | cons d cs =>
        obtain rfl : d = '\x7b' := Option.some.inj hbrace
        obtain ⟨cs, rfl⟩ := List.head?_eq_some_iff.mp (hc cs rfl rfl)
        simp only [List.cons_append] at ih ⊢
        rw [substitute_of_no_name (name?_closed _), ih]
    · rw [List.cons_append, substitute_cons hbrace, ih, List.cons_append]

theorem substitute_reference (h : IsName name) (rest : List Char) :
    substitute value? (write name ++ rest) =
      (value? name).getD (write name) ++ substitute value? rest := by
  have hwrite : write name ++ rest = '$' :: '\x7b' :: (name ++ '\x7d' :: rest) := by simp [write]
  rw [hwrite, substitute_of_name (name?_append h rest)]

theorem head?_pieces (ps : List Piece) (h : rest.head? ≠ some '\x7b') :
    (ps.flatMap (fun p => write p.name ++ p.literal) ++ rest).head? ≠ some '\x7b' := by
  cases ps with
  | nil => exact h
  | cons p ps => simp [write]

theorem substitute_pieces (ps : List Piece) (h : rest.head? ≠ some '\x7b') :
    substitute value? (ps.flatMap (fun p => write p.name ++ p.literal) ++ rest) =
      ps.flatMap (fun p => (value? p.name).getD (write p.name) ++ p.literal) ++
        substitute value? rest := by
  induction ps with
  | nil => rfl
  | cons p ps ih =>
    simp only [List.flatMap_cons, List.append_assoc]
    rw [substitute_reference p.isName, substitute_literal p.isLiteral (head?_pieces ps h), ih]

theorem substitute_text (t : Template) :
    substitute value? t.text = t.fill fun name => (value? name).getD (write name) := by
  have hback := t.isOpen.head?
  unfold Template.text Template.fill
  rw [substitute_literal t.isLiteral (head?_pieces _ hback), substitute_pieces _ hback,
    substitute_open t.isOpen]

end substituting

namespace Template

theorem fill_congr {t : Template} {put put' : List Char → List Char}
    (h : ∀ p ∈ t.pieces, put p.name = put' p.name) : t.fill put = t.fill put' := by
  unfold fill
  rw [List.flatMap_congr fun p hp => by rw [h p hp]]

/-- Every text can be taken apart. -/
theorem exists_text_eq (cs : List Char) : ∃ t : Template, t.text = cs := by
  -- on the length, since behind a reference there is less than behind its first sign
  induction hlen : cs.length using Nat.strong_induction_on generalizing cs with
  | h n ih =>
    subst hlen
    cases cs with
    | nil => exact ⟨⟨[], [], [], .nil, .inl rfl⟩, rfl⟩
    | cons c cs =>
      by_cases hc : c = '$' ∧ cs.head? = some '\x7b'
      · obtain ⟨rfl, hbrace⟩ := hc
        obtain ⟨cs, rfl⟩ := List.head?_eq_some_iff.mp hbrace
        by_cases hclosed : '\x7d' ∈ cs
        · obtain ⟨name, rest, rfl, hname⟩ := List.eq_append_cons_of_mem hclosed
          obtain ⟨t, rfl⟩ := ih _ (by simp only [List.length_cons, List.length_append]; omega)
            rest rfl
          cases name with
          | nil =>
            refine ⟨{ t with front := '$' :: '\x7b' :: '\x7d' :: t.front, isLiteral := ?_ }, rfl⟩
            simp [IsLiteral.cons_iff, t.isLiteral]
          | cons d name =>
            let p : Piece := ⟨d :: name, t.front, ⟨List.cons_ne_nil _ _, hname⟩, t.isLiteral⟩
            exact ⟨⟨[], p :: t.pieces, t.back, .nil, t.isOpen⟩, by simp [text, fill, write, p]⟩
        · exact ⟨⟨[], [], '$' :: '\x7b' :: cs, .nil, .inr ⟨cs, rfl, hclosed⟩⟩, rfl⟩
      · obtain ⟨t, rfl⟩ := ih _ (Nat.lt_succ_self _) cs rfl
        refine ⟨{ t with front := c :: t.front, isLiteral := ?_ }, rfl⟩
        refine IsLiteral.cons_iff.mpr ⟨fun rest hd hf => absurd ⟨hd, ?_⟩ hc, t.isLiteral⟩
        simp [text, fill, hf]

end Template

end Reference

namespace Variables

/-- What comes in the place of a reference: the value of its variable, or itself. -/
def instead (vars : Variables) (name : List Char) : List Char :=
  ((vars.get? (String.ofList name)).map String.toList).getD (Reference.write name)

/-- Under a name without an equals sign the first value that was set under it is found. -/
theorem get?_eq_lookup {vars : Variables} {name : String} (hname : '=' ∉ name.toList)
    (hvars : ∀ v ∈ vars, '=' ∉ v.1.toList) : vars.get? name = vars.lookup name := by
  induction vars with
  | nil => rfl
  | cons v vars ih =>
    obtain ⟨key, value⟩ := v
    have hkey : '=' ∉ key.toList := hvars _ List.mem_cons_self
    have ih := ih fun v hv => hvars v (List.mem_cons_of_mem _ hv)
    have hstarts : name.toList ++ ['='] <+: key.toList ++ '=' :: value.toList ↔ name = key := by
      refine ⟨fun ⟨rest, h⟩ => ?_, fun h => h ▸ ⟨value.toList, by simp⟩⟩
      rw [List.append_assoc, List.singleton_append] at h
      have htake := congrArg (List.takeWhile (· != '=')) h
      rw [Reference.takeWhile_ne_append hname, Reference.takeWhile_ne_append hkey] at htake
      exact String.toList_inj.mp htake
    rw [get?_cons, List.lookup_cons, ih]
    by_cases hk : name = key
    · rw [if_pos (hstarts.mpr hk), hk, beq_self_eq_true, ← List.drop_drop, List.drop_left]
      simp
    · rw [if_neg (mt hstarts.mp hk), beq_false_of_ne hk]

theorem substitute_eq (vars : Variables) (t : Reference.Template) :
    vars.substitute (String.ofList t.text) = String.ofList (t.fill vars.instead) := by
  unfold Variables.substitute
  rw [String.toList_ofList, Reference.substitute_text]
  rfl

/-- Variables are put into a text in one pass from left to right: in the place of each reference
comes the value of its variable, whatever is in it, or the reference itself where there is no such
variable, and all the rest stays. Every text is made of such parts. -/
theorem substitute_template (vars : Variables) (t : Reference.Template) :
    vars.substitute (String.ofList t.text) = String.ofList (t.fill vars.instead) ∧
    ((∀ p ∈ t.pieces, vars.get? (String.ofList p.name) = none) →
      vars.substitute (String.ofList t.text) = String.ofList t.text) ∧
    (∀ name value, Reference.IsName name → vars.get? (String.ofList name) = some value →
      vars.substitute (String.ofList (Reference.write name)) = value) ∧
    ∀ s, ∃ t : Reference.Template, String.ofList t.text = s := by
  refine ⟨vars.substitute_eq t, fun hnone => ?_, fun name value hname hvalue => ?_, fun s => ?_⟩
  · rw [vars.substitute_eq, Reference.Template.fill_congr fun p hp => ?_, Reference.Template.text]
    rw [instead, hnone p hp, Option.map_none, Option.getD_none]
  · have h := vars.substitute_eq ⟨[], [⟨name, [], hname, .nil⟩], [], .nil, .inl rfl⟩
    simpa [Reference.Template.text, Reference.Template.fill, instead, hvalue] using h
  · obtain ⟨t, ht⟩ := Reference.Template.exists_text_eq s.toList
    exact ⟨t, by rw [ht, String.ofList_toList]⟩

/-- A value that reads like a reference is put in as it is, and without the variable nothing is. -/
theorem reference_put_in_for_reference :
    substitute [("A", "$\x7bB\x7d"), ("B", "b")] "$\x7bA\x7d" = "$\x7bB\x7d" ∧
    substitute [("B", "b")] "$\x7bA\x7d" = "$\x7bA\x7d" := by
  have hname : Reference.IsName ['A'] := ⟨by decide, by decide⟩
  have hnone : get? [("B", "b")] (String.ofList ['A']) = none := by decide
  let t : Reference.Template := ⟨[], [⟨['A'], [], hname, .nil⟩], [], .nil, .inl rfl⟩
  exact ⟨(substitute_template _ t).2.2.1 ['A'] _ hname rfl,
    (substitute_template _ t).2.1 (List.forall_mem_singleton.mpr hnone)⟩

end Variables

end PortShare
