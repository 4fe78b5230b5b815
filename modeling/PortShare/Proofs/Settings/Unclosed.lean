import PortShare.Proofs.Settings.Template

/-! References behind any text. One is put in as it would be by itself, unless the text in front of it
opens a brace and does not close it: then everything from that brace on is taken for the name. -/

namespace PortShare

namespace Reference

/-- The text opens a reference and does not close it. -/
def LeavesOpen (cs : List Char) : Prop :=
  ∃ front tail, cs = front ++ '$' :: '\x7b' :: tail ∧ '\x7d' ∉ tail

theorem isLiteral_of_not_mem {cs : List Char} (h : '$' ∉ cs) : IsLiteral cs :=
  fun _ hr => absurd (hr.subset List.mem_cons_self) h

/-- A brace in a literal text is closed at once. -/
theorem IsLiteral.not_leavesOpen {cs : List Char} (h : IsLiteral cs) : ¬ LeavesOpen cs := by
  rintro ⟨front, tail, rfl, htail⟩
  exact htail (List.mem_of_mem_head? (h tail (List.suffix_append _ _)))

theorem IsLiteral.append {front back : List Char} (hfront : IsLiteral front) (hdollar : '$' ∉ back)
    (hbrace : '\x7b' ∉ back) : IsLiteral (front ++ back) := by
  induction front with
  | nil => exact isLiteral_of_not_mem hdollar
  | cons c front ih =>
    obtain ⟨hhead, htail⟩ := IsLiteral.cons_iff.mp hfront
    refine IsLiteral.cons_iff.mpr ⟨fun rest hc (hrest : front ++ back = _) => ?_, ih htail⟩
    cases front with
    | nil =>
      rw [List.nil_append] at hrest
      exact absurd (hrest ▸ List.mem_cons_self) hbrace
    | cons d front =>
      obtain ⟨rfl, rfl⟩ := List.cons.inj hrest
      rw [List.append_eq, List.head?_append, hhead front hc rfl, Option.some_or]

section behind

variable {value? : List Char → Option (List Char)} {before rest name : List Char}

/-- Of the braces that are not closed there is a first one. -/
theorem LeavesOpen.exists_first (h : LeavesOpen before) : ∃ front tail,
    before = front ++ '$' :: '\x7b' :: tail ∧ '\x7d' ∉ tail ∧ ¬ LeavesOpen front := by
  obtain ⟨front, tail, rfl, htail⟩ := h
  induction hlen : front.length using Nat.strong_induction_on generalizing front tail with
  | h n ih =>
    by_cases hfront : LeavesOpen front
    · obtain ⟨front', tail', rfl, htail'⟩ := hfront
      have hl : front'.length < n := by
        rw [← hlen, List.length_append, List.length_cons]
        omega
      have hmem : '\x7d' ∉ tail' ++ '$' :: '\x7b' :: tail := by simp [htail, htail']
      obtain ⟨front'', tail'', h, hopen⟩ := ih _ hl front' _ hmem rfl
      exact ⟨front'', tail'', by rw [← h, List.append_assoc, List.cons_append, List.cons_append],
        hopen⟩
    · exact ⟨front, tail, rfl, htail, hfront⟩

theorem substitute_of_isLiteral (h : IsLiteral before) : substitute value? before = before := by
  have hnothing : substitute value? [] = [] := by rw [substitute]
  have happend : substitute value? (before ++ []) = before ++ substitute value? [] :=
    substitute_literal h (by simp)
  rwa [List.append_nil, hnothing, List.append_nil] at happend

/-- Where there is no reference, nothing is put in. -/
theorem substitute_of_no_reference (h : ∀ name, IsName name → ¬ write name <:+: before) :
    substitute value? before = before := by
  obtain ⟨t, rfl⟩ := Template.exists_text_eq before
  rw [substitute_text, Template.text]
  refine Template.fill_congr fun p hp => absurd ?_ (h p.name p.isName)
  obtain ⟨ps, ps', hpieces⟩ := List.append_of_mem hp
  refine ⟨t.front ++ ps.flatMap (fun p => write p.name ++ p.literal),
    p.literal ++ (ps'.flatMap (fun p => write p.name ++ p.literal) ++ t.back), ?_⟩
  simp [Template.text, Template.fill, hpieces]

/-- Without values nothing is put in. -/
theorem substitute_none (cs : List Char) : substitute (fun _ => none) cs = cs := by
  obtain ⟨t, rfl⟩ := Template.exists_text_eq cs
  exact substitute_text t

/-- Behind a text that leaves nothing open everything is replaced as it would be by itself. -/
theorem substitute_append (h : ¬ LeavesOpen before) (hrest : rest.head? ≠ some '\x7b') :
    substitute value? (before ++ rest) = substitute value? before ++ substitute value? rest := by
  obtain ⟨⟨front, pieces, back, hfront, hback⟩, rfl⟩ := Template.exists_text_eq before
  rcases hback with rfl | ⟨tail, rfl, htail⟩
  · have replaced {after : List Char} (hafter : after.head? ≠ some '\x7b') :
        substitute value?
            (front ++ (pieces.flatMap (fun p => write p.name ++ p.literal) ++ after)) =
          front ++ (pieces.flatMap (fun p => (value? p.name).getD (write p.name) ++ p.literal) ++
            substitute value? after) := by
      rw [substitute_literal hfront (head?_pieces _ hafter), substitute_pieces _ hafter]
    have hnothing : substitute value? [] = [] := by rw [substitute]
    rw [Template.text, Template.fill, replaced (by simp), hnothing]
    simp only [List.append_assoc, List.nil_append, replaced hrest]
  · refine absurd ⟨front ++ pieces.flatMap (fun p => write p.name ++ p.literal), tail, ?_, htail⟩ h
    simp only [Template.text, Template.fill, List.append_assoc]

theorem substitute_between (h : ¬ LeavesOpen before) (hname : IsName name) (rest : List Char) :
    substitute value? (before ++ (write name ++ rest)) = substitute value? before ++
      ((value? name).getD (write name) ++ substitute value? rest) := by
  have hhead : (write name ++ rest).head? ≠ some '\x7b' := by simp [write]
  rw [substitute_append h hhead, substitute_reference hname]

end behind

end Reference

namespace Variables

/-- The usual names of variables: letters, digits and underscores, with no digit in front. -/
structure IsIdentifier (name : String) : Prop where
  ne_empty : name ≠ ""
  signs : (name.toList.all fun c => c.isAlphanum || c == '_') = true
  head : name.toList.head?.any Char.isDigit = false

theorem IsIdentifier.isName {name : String} (h : IsIdentifier name) :
    Reference.IsName name.toList := by
  refine ⟨fun hn => h.ne_empty (String.toList_eq_nil_iff.mp hn), fun hbrace => ?_⟩
  exact absurd (List.all_eq_true.mp h.signs _ hbrace) (by decide)

/-- A reference to the variable of that name. -/
def reference (name : String) : String := "$\x7b" ++ name ++ "\x7d"

theorem toList_reference (name : String) :
    (reference name).toList = Reference.write name.toList := by
  simp [reference, Reference.write]

theorem substitute_around (vars : Variables) {before name : String}
    (h : ¬ Reference.LeavesOpen before.toList) (hname : Reference.IsName name.toList)
    (after : String) : vars.substitute (before ++ reference name ++ after) =
      vars.substitute before ++ (vars.get? name).getD (reference name) ++
        vars.substitute after := by
  have hput : (((vars.get? name).getD (reference name)).toList) =
      ((vars.get? name).map String.toList).getD (Reference.write name.toList) := by
    rw [← toList_reference]
    cases vars.get? name <;> rfl
  rw [← String.toList_inj]
  simp only [substitute, String.toList_append, String.toList_ofList, toList_reference, hput,
    List.append_assoc, Reference.substitute_between h hname, String.ofList_toList]

/-- A reference to a variable that is set is replaced by its value, whatever stands in front of it
and behind, unless the text in front leaves a brace open. In that case all from the first such brace
on is one name, so that the reference stays as it is written where that name has no value. -/
theorem expanded_unless_open {vars : Variables} {name value : String} (hname : IsIdentifier name)
    (hvalue : vars.get? name = some value) (before after : String) :
    (¬ Reference.LeavesOpen before.toList →
      vars.substitute (before ++ reference name ++ after) =
        vars.substitute before ++ value ++ vars.substitute after) ∧
    (Reference.LeavesOpen before.toList → ∃ front tail : String,
      before = front ++ "$\x7b" ++ tail ∧ ¬ Reference.LeavesOpen front.toList ∧
      '\x7d' ∉ tail.toList ∧ vars.substitute (before ++ reference name ++ after) =
        vars.substitute front ++ (vars.get? (tail ++ "$\x7b" ++ name)).getD
          ("$\x7b" ++ tail ++ reference name) ++ vars.substitute after) := by
  refine ⟨fun hbefore => ?_, fun hbefore => ?_⟩
  · rw [substitute_around vars hbefore hname.isName, hvalue, Option.getD_some]
  · obtain ⟨front, tail, hsplit, htail, hfront⟩ := hbefore.exists_first
    have hbefore : before = String.ofList front ++ "$\x7b" ++ String.ofList tail := by
      rw [← String.toList_inj]
      simp [hsplit]
    have hlong : Reference.IsName (String.ofList tail ++ "$\x7b" ++ name).toList := by
      constructor <;> simp [htail, hname.isName.not_mem]
    rw [← String.toList_ofList (l := front)] at hfront
    rw [← String.toList_ofList (l := tail)] at htail
    have hwhole : before ++ reference name =
        String.ofList front ++ reference (String.ofList tail ++ "$\x7b" ++ name) := by
      simp only [hbefore, reference, String.append_assoc]
    have hlong' : reference (String.ofList tail ++ "$\x7b" ++ name) =
        "$\x7b" ++ String.ofList tail ++ reference name := by
      simp only [reference, String.append_assoc]
    refine ⟨_, _, hbefore, hfront, htail, ?_⟩
    rw [hwhole, substitute_around vars hfront hlong, hlong']

/-- A token is put in where it stands, but behind an open brace a part of a name. -/
theorem token_behind_text_and_brace :
    let vars : Variables := [("TOKEN", "abc")]
    vars.substitute ("token = " ++ reference "TOKEN" ++ "\n") =
      vars.substitute "token = " ++ "abc" ++ vars.substitute "\n" ∧
    ∃ front tail : String, "# $\x7b" = front ++ "$\x7b" ++ tail ∧
      ¬ Reference.LeavesOpen front.toList ∧ '\x7d' ∉ tail.toList ∧
      vars.substitute ("# $\x7b" ++ reference "TOKEN" ++ "\n") = vars.substitute front ++
        (vars.get? (tail ++ "$\x7b" ++ "TOKEN")).getD ("$\x7b" ++ tail ++ reference "TOKEN") ++
          vars.substitute "\n" := by
  intro vars
  have hname : IsIdentifier "TOKEN" := ⟨by decide, by decide, by decide⟩
  have hplain : ¬ Reference.LeavesOpen "token = ".toList :=
    (Reference.isLiteral_of_not_mem (by decide)).not_leavesOpen
  have hbrace : Reference.LeavesOpen "# $\x7b".toList := ⟨['#', ' '], [], rfl, by decide⟩
  have hvalue : vars.get? "TOKEN" = some "abc" := by decide
  exact ⟨(expanded_unless_open hname hvalue _ _).1 hplain,
    (expanded_unless_open hname hvalue _ _).2 hbrace⟩

/-- One brace in a comment, and the token below it is not put in. -/
theorem stray_brace_hides_token :
    let vars : Variables := [("TOKEN", "abc")]
    let before := "# $\x7b begins a reference\n[service]\nsession_token = \""
    IsIdentifier "TOKEN" ∧ vars.get? "TOKEN" = some "abc" ∧
    vars.substitute (before ++ reference "TOKEN" ++ "\"\n") =
      before ++ reference "TOKEN" ++ "\"\n" ∧
    vars.substitute (before ++ reference "TOKEN" ++ "\"\n") ≠
      vars.substitute before ++ "abc" ++ vars.substitute "\"\n" := by
  have hname : IsIdentifier "TOKEN" := ⟨by decide, by decide, by decide⟩
  exact ⟨hname, by decide, by decide +kernel, by decide +kernel⟩

end Variables

end PortShare
