import PortShare.Proofs.Toml.Ended

/-! How an ended line of a document is read does not depend on what stands behind it, so that a
document goes on where its first lines have led. -/

namespace PortShare.Toml

section words

variable {cs : List Char}

theorem wordChars_eq (cs : List Char) : wordChars cs =
    match cs.dropWhile isWordChar with
    | ' ' :: c :: rest =>
      if Word.date? (cs.takeWhile isWordChar) == some [] && c.isDigit then
        cs.takeWhile isWordChar ++ ' ' :: (c :: rest).takeWhile isWordChar
      else cs.takeWhile isWordChar
    | _ => cs.takeWhile isWordChar := by
  rw [← drop_takeWhile]
  rfl

theorem not_mem_word (cs : List Char) : '\n' ∉ cs.takeWhile isWordChar := fun h =>
  absurd (List.mem_takeWhile_imp h) (by decide)

theorem wordChars_starts (cs : List Char) : wordChars cs <+: cs ∧ '\n' ∉ wordChars cs := by
  have hsplit := List.takeWhile_append_dropWhile (p := isWordChar) (l := cs)
  have hone : cs.takeWhile isWordChar <+: cs ∧ '\n' ∉ cs.takeWhile isWordChar :=
    ⟨List.takeWhile_prefix _, not_mem_word cs⟩
  rw [wordChars_eq]
  split
  next c rest hdrop =>
    split
    · obtain ⟨after, hafter⟩ := List.takeWhile_prefix (l := c :: rest) isWordChar
      refine ⟨⟨after, ?_⟩, ?_⟩
      · rw [List.append_assoc, List.cons_append, hafter, ← hdrop, hsplit]
      · simp only [List.mem_append, List.mem_cons, not_or]
        exact ⟨not_mem_word cs, by decide, not_mem_word (c :: rest)⟩
    · exact hone
  · exact hone

theorem wordChars_append (h : IsEnded cs) (more : List Char) :
    wordChars (cs ++ more) = wordChars cs := by
  have hdropped := h.dropWhile (p := isWordChar) rfl
  rw [wordChars_eq, wordChars_eq, h.takeWhile_append rfl, h.dropWhile_append rfl]
  rcases hdropped.cases with hlast | ⟨c, d, tail, hdrop, htail⟩
  · rw [hlast]
    rfl
  · rw [hdrop]
    by_cases hc : c = ' '
    · subst hc
      simp only [List.cons_append]
      rw [← List.cons_append, htail.takeWhile_append rfl]
    · simp only [List.cons_append]
      split <;> simp_all

theorem leavesEnd_runWord (h : IsEnded cs) : LeavesEnd runWord cs := by
  intro item rest hrun
  obtain ⟨c, cs, rfl⟩ := List.exists_cons_of_ne_nil h.ne_nil
  obtain ⟨hstarts, hbreak⟩ := wordChars_starts (c :: cs)
  rw [runWord] at hrun
  split at hrun
  · cases hrun
  next w ws hword =>
    rw [hword] at hstarts hbreak
    obtain ⟨word, hread, hitem⟩ := Option.map_eq_some_iff.mp hrun
    cases hitem
    obtain ⟨hended, hdrop⟩ := h.drop_word hstarts hbreak
    refine ⟨hended, fun more => ?_⟩
    rw [List.cons_append, runWord, ← List.cons_append, wordChars_append h, hword]
    simp only [hread, Option.map_some]
    exact congrArg (fun rest => some (Item.word word, rest)) (hdrop more)

end words

section values

variable {cs : List Char} {value : Part Item}

/-- Whatever ended line a value stands on, the reader leaves its end. -/
def Part.LeavesEnd {α : Type} (p : Part α) : Prop := ∀ cs, IsEnded cs → Toml.LeavesEnd p.run cs

theorem Part.ne_nil_of_run {α : Type} (p : Part α) {a : α} {rest : List Char}
    (h : p.run cs = some (a, rest)) : cs ≠ [] := by
  rintro rfl
  exact absurd (p.length_of_run h) (Nat.not_lt_zero _)

/-- A value behind a gap. -/
theorem Part.LeavesEnd.behind_gap (across : Bool) {item : Item} {rest : List Char}
    (hvalue : value.LeavesEnd) (h : IsEnded cs)
    (hitem : value.run (skipGap across cs) = some (item, rest)) :
    IsEnded rest ∧ ∀ more, value.run (skipGap across (cs ++ more)) = some (item, rest ++ more) := by
  obtain ⟨hended, happend⟩ := skipGap_append h (value.ne_nil_of_run hitem)
  obtain ⟨hrest, hrun⟩ := hvalue _ hended _ _ hitem
  exact ⟨hrest, fun more => by rw [happend, hrun]⟩

section items

variable {item : Item} {rest after : List Char}

theorem listItems_closed (hstart : skipFiller cs = ']' :: rest) :
    listItems value cs = some ([], rest) := by
  rw [listItems]
  grind

theorem listItems_last (hstart : ∀ rest, skipFiller cs ≠ ']' :: rest)
    (hitem : value.run (skipFiller cs) = some (item, rest))
    (hend : skipFiller rest = ']' :: after) :
    listItems value cs = some ([item], after) := by
  rw [listItems]
  grind

theorem listItems_comma (hstart : ∀ rest, skipFiller cs ≠ ']' :: rest)
    (hitem : value.run (skipFiller cs) = some (item, rest))
    (hcomma : skipFiller rest = ',' :: after) :
    listItems value cs =
      (listItems value after).map fun (items, after) => (item :: items, after) := by
  rw [listItems]
  grind

end items

theorem skipFiller_ne_cons {c : Char} (h : IsEnded cs) (hne : skipFiller cs ≠ [])
    (hc : ∀ rest, skipFiller cs ≠ c :: rest) (more rest : List Char) :
    skipFiller (cs ++ more) ≠ c :: rest := by
  obtain ⟨hended, happend⟩ := skipFiller_append h hne
  rw [happend]
  exact hended.append_ne_cons hc more rest

theorem leavesEnd_listItems (hvalue : value.LeavesEnd) (h : IsEnded cs) :
    LeavesEnd (listItems value) cs := by
  fun_induction listItems value cs with
  | case1 cs rest hstart =>
    intro items after hrun
    rw [listItems_closed hstart] at hrun
    cases hrun
    obtain ⟨hended, happend⟩ := skipGap_sign true h hstart (by decide)
    exact ⟨hended, fun more => listItems_closed (happend more)⟩
  | case2 cs hstart hitem =>
    refine .of_eq_none ?_
    rw [listItems]
    grind
  | case3 cs item rest after hend hstart hitem =>
    intro items after' hrun
    rw [listItems_last hstart hitem hend] at hrun
    cases hrun
    obtain ⟨hrest, hvalue'⟩ := hvalue.behind_gap true h hitem
    obtain ⟨hafter, hend'⟩ := skipGap_sign true hrest hend (by decide)
    refine ⟨hafter, fun more => listItems_last ?_ (hvalue' more) (hend' more)⟩
    exact skipFiller_ne_cons h (value.ne_nil_of_run hitem) hstart more
  | case4 cs item rest after hcomma hstart hitem _ ih =>
    obtain ⟨hrest, hvalue'⟩ := hvalue.behind_gap true h hitem
    obtain ⟨hafter, hcomma'⟩ := skipGap_sign true hrest hcomma (by decide)
    refine ((ih hafter).map (item :: ·)).behind (listItems_comma hstart hitem hcomma) fun more => ?_
    refine listItems_comma ?_ (hvalue' more) (hcomma' more)
    exact skipFiller_ne_cons h (value.ne_nil_of_run hitem) hstart more
  | case5 =>
    refine .of_eq_none ?_
    rw [listItems]
    grind

section entries

variable {across : Bool} {keys : List String} {item : Item} {rest after : List Char}

theorem assignment_sign (hkeys : keyPath cs = some (keys, rest))
    (hsign : skipGap across rest = '=' :: after) : assignment value across cs =
      (value.run (skipGap across after)).map fun (item, rest) => (keys, item, rest) := by
  simp only [assignment, hkeys, hsign]

theorem of_assignment (h : assignment value across cs = some (keys, item, after)) :
    ∃ rest behind, keyPath cs = some (keys, rest) ∧ skipGap across rest = '=' :: behind ∧
      value.run (skipGap across behind) = some (item, after) := by
  unfold assignment at h
  grind

theorem assignment_append (hvalue : value.LeavesEnd) (h : IsEnded cs)
    (hrun : assignment value across cs = some (keys, item, after)) : IsEnded after ∧
      ∀ more, assignment value across (cs ++ more) = some (keys, item, after ++ more) := by
  obtain ⟨rest, behind, hkeys, hsign, hitem⟩ := of_assignment hrun
  obtain ⟨hrest, hkeys'⟩ := leavesEnd_keyPath h _ _ hkeys
  obtain ⟨hbehind, hsign'⟩ := skipGap_sign across hrest hsign (by decide)
  obtain ⟨hafter, hitem'⟩ := hvalue.behind_gap across hbehind hitem
  refine ⟨hafter, fun more => ?_⟩
  rw [assignment_sign (hkeys' more) (hsign' more), hitem', Option.map_some]

/-- An entry behind a gap. -/
theorem assignment_behind_filler (hvalue : value.LeavesEnd) (h : IsEnded cs)
    (hentry : assignment value true (skipFiller cs) = some (keys, item, after)) :
    skipFiller cs ≠ [] ∧ IsEnded after ∧ ∀ more,
      assignment value true (skipFiller (cs ++ more)) = some (keys, item, after ++ more) := by
  have hne : skipFiller cs ≠ [] := fun hn => by
    rw [hn] at hentry
    exact absurd (length_of_assignment hentry) (Nat.not_lt_zero _)
  obtain ⟨hended, happend⟩ := skipFiller_append h hne
  obtain ⟨hafter, hentry'⟩ := assignment_append hvalue hended hentry
  exact ⟨hne, hafter, fun more => by rw [happend, hentry']⟩

variable {table table' : Table}

theorem inlineEntries_closed (hstart : skipFiller cs = '\x7d' :: rest) :
    inlineEntries value table cs = some (table, rest) := by
  rw [inlineEntries]
  grind

theorem inlineEntries_last (hstart : ∀ rest, skipFiller cs ≠ '\x7d' :: rest)
    (hentry : assignment value true (skipFiller cs) = some (keys, item, rest))
    (htable : table.insert keys item = some table') (hend : skipFiller rest = '\x7d' :: after) :
    inlineEntries value table cs = some (table', after) := by
  rw [inlineEntries]
  grind

theorem inlineEntries_comma (hstart : ∀ rest, skipFiller cs ≠ '\x7d' :: rest)
    (hentry : assignment value true (skipFiller cs) = some (keys, item, rest))
    (htable : table.insert keys item = some table') (hcomma : skipFiller rest = ',' :: after) :
    inlineEntries value table cs = inlineEntries value table' after := by
  rw [inlineEntries]
  grind

end entries

theorem leavesEnd_inlineEntries {table : Table} (hvalue : value.LeavesEnd) (h : IsEnded cs) :
    LeavesEnd (inlineEntries value table) cs := by
  fun_induction inlineEntries value table cs with
  | case1 table cs rest hstart =>
    intro table' after hrun
    rw [inlineEntries_closed hstart] at hrun
    cases hrun
    obtain ⟨hended, happend⟩ := skipGap_sign true h hstart (by decide)
    exact ⟨hended, fun more => inlineEntries_closed (happend more)⟩
  | case4 table cs keys item rest table' htable after hend hstart hentry =>
    intro table' after' hrun
    rw [inlineEntries_last hstart hentry htable hend] at hrun
    cases hrun
    obtain ⟨hne, hrest, hentry'⟩ := assignment_behind_filler hvalue h hentry
    obtain ⟨hafter, hend'⟩ := skipGap_sign true hrest hend (by decide)
    refine ⟨hafter, fun more => inlineEntries_last ?_ (hentry' more) htable (hend' more)⟩
    exact skipFiller_ne_cons h hne hstart more
  | case5 table cs keys item rest table' htable after hcomma hstart hentry _ ih =>
    obtain ⟨hne, hrest, hentry'⟩ := assignment_behind_filler hvalue h hentry
    obtain ⟨hafter, hcomma'⟩ := skipGap_sign true hrest hcomma (by decide)
    refine (ih hafter).behind (inlineEntries_comma hstart hentry htable hcomma) fun more => ?_
    refine inlineEntries_comma ?_ (hentry' more) htable (hcomma' more)
    exact skipFiller_ne_cons h hne hstart more
  | case2 | case3 | case6 =>
    refine .of_eq_none ?_
    rw [inlineEntries]
    grind

theorem leavesEnd_runFlat (h : IsEnded cs) : LeavesEnd runFlat cs := by
  obtain ⟨c, cs, rfl⟩ := List.exists_cons_of_ne_nil h.ne_nil
  by_cases hc : c = '"' ∨ c = '\''
  · refine ((leavesEnd_runText h).map fun t => Item.text (String.ofList t)).behind ?_ fun more => ?_
    · exact if_pos hc
    · exact if_pos hc
  · exact (leavesEnd_runWord h).behind (if_neg hc) fun _ => if_neg hc

theorem Part.LeavesEnd.nested {inner : Part Item} (hinner : inner.LeavesEnd) :
    (nested inner).LeavesEnd := by
  intro cs h
  obtain ⟨c, cs, rfl⟩ := List.exists_cons_of_ne_nil h.ne_nil
  by_cases hlist : c = '['
  · have hcs := h.tail (by rw [hlist]; decide)
    exact ((leavesEnd_listItems hinner hcs).map Item.list).behind (if_pos hlist) fun _ =>
      if_pos hlist
  by_cases htable : c = '\x7b'
  · have hcs := h.tail (by rw [htable]; decide)
    let start : Table := (.written, [])
    have hentries : Toml.LeavesEnd (inlineEntries inner start) cs :=
      leavesEnd_inlineEntries hinner hcs
    refine (hentries.map fun t => Item.table .inline t.2).behind ?_ fun more => ?_
    · exact (if_neg hlist).trans (if_pos htable)
    · exact (if_neg hlist).trans (if_pos htable)
  · refine (leavesEnd_runFlat h).behind ?_ fun more => ?_
    · exact (if_neg hlist).trans (if_neg htable)
    · exact (if_neg hlist).trans (if_neg htable)

theorem leavesEnd_value (depth : Nat) : (Toml.value depth).LeavesEnd := by
  induction depth with
  | zero => exact fun _ h => leavesEnd_runFlat h
  | succ depth ih => exact ih.nested

end values

section lines

variable {cs : List Char}

theorem lineContent_entry (h : cs.head? ≠ some '[') : lineContent cs =
    (assignment (value maxDepth) false cs).map fun (keys, item, rest) =>
      (.entry keys item, rest) := by
  unfold lineContent
  split <;> simp_all

section header

variable {c : Char} {keys : List String} {rest : List Char} {line : Line}

theorem lineContent_header (hc : c ≠ '[')
    (hkeys : keyPath (skipBlank (c :: cs)) = some (keys, ']' :: rest)) :
    lineContent ('[' :: c :: cs) = some (.header keys, rest) := by
  unfold lineContent
  split <;> simp_all

theorem of_lineContent_header (hc : c ≠ '[')
    (hrun : lineContent ('[' :: c :: cs) = some (line, rest)) :
    ∃ keys, keyPath (skipBlank (c :: cs)) = some (keys, ']' :: rest) ∧ line = .header keys := by
  unfold lineContent at hrun
  split at hrun
  next heq => exact absurd (List.cons.inj (List.cons.inj heq).2).1 hc
  next heq =>
    obtain rfl := (List.cons.inj heq).2
    split at hrun
    next keys rest hkeys =>
      cases hrun
      exact ⟨keys, hkeys, rfl⟩
    · cases hrun
  next hother => exact absurd rfl (hother (c :: cs))

end header

theorem leavesEnd_lineContent (h : IsEnded cs) : LeavesEnd lineContent cs := by
  obtain ⟨c, cs, rfl⟩ := List.exists_cons_of_ne_nil h.ne_nil
  intro line rest hrun
  by_cases hc : c = '['
  · subst hc
    have hcs := h.tail (by decide)
    obtain ⟨d, cs, rfl⟩ := List.exists_cons_of_ne_nil hcs.ne_nil
    by_cases hd : d = '['
    · subst hd
      have hcs := hcs.tail (by decide)
      simp only [lineContent, List.cons_append] at hrun ⊢
      split at hrun
      next hkeys =>
        cases hrun
        obtain ⟨hended, happend⟩ := leavesEnd_keyPath hcs.skipBlank _ _ hkeys
        refine ⟨(hended.tail (by decide)).tail (by decide), fun more => ?_⟩
        simp only [skipBlank_append hcs, happend, List.cons_append]
      · cases hrun
    · obtain ⟨keys, hkeys, rfl⟩ := of_lineContent_header hd hrun
      obtain ⟨hended, happend⟩ := leavesEnd_keyPath hcs.skipBlank _ _ hkeys
      refine ⟨hended.tail (by decide), fun more => lineContent_header hd ?_⟩
      exact (congrArg keyPath (skipBlank_append hcs more)).trans (happend more)
  · rw [lineContent_entry (by simpa using hc)] at hrun
    obtain ⟨⟨keys, item, rest⟩, hentry, hline⟩ := Option.map_eq_some_iff.mp hrun
    cases hline
    obtain ⟨hended, happend⟩ := assignment_append (leavesEnd_value maxDepth) h hentry
    refine ⟨hended, fun more => ?_⟩
    rw [lineContent_entry (by simpa using hc), happend, Option.map_some]

namespace Document

/-- The content of a line, which may be nothing but a comment. -/
def content (cs : List Char) : Option (Line × List Char) :=
  if isEmptyLine cs then some (.empty, cs) else lineContent cs

theorem leavesEnd_content (h : IsEnded cs) : LeavesEnd content cs := by
  obtain ⟨c, cs, rfl⟩ := List.exists_cons_of_ne_nil h.ne_nil
  by_cases hempty : isEmptyLine (c :: cs) = true
  · intro line rest hrun
    rw [content, if_pos hempty] at hrun
    cases hrun
    exact ⟨h, fun more => if_pos hempty⟩
  · exact (leavesEnd_lineContent h).behind (if_neg hempty) fun _ => if_neg hempty

variable {d d' : Document} {c : Char} {rest after tail : List Char} {line : Line}

theorem lines_nil (d : Document) : lines d [] = some d := by
  rw [lines]
  rfl

/-- One line, and the lines behind it. -/
theorem lines_eq (d : Document) (cs : List Char) : lines d cs =
    match skipBlank cs with
    | [] => some d
    | c :: tail => (content (c :: tail)).bind fun (line, rest) =>
        (d.add line).bind fun d => (lineEnd rest).bind fun after => lines d after := by
  rw [lines]
  split
  next hstart => simp only [hstart]
  next hstart =>
    simp only [hstart]
    split
    next hline => rw [content, hline, Option.bind_none]
    next line rest hline =>
      rw [content, hline, Option.bind_some]
      split
      next hadd hend => simp only [hadd, hend, Option.bind_some, lines_nil]
      next hadd hend => simp only [hadd, hend, Option.bind_some]
      next hlast hmore =>
        cases hadd : d.add line with
        | none => rfl
        | some d' =>
          cases hend : lineEnd rest with
          | none => rfl
          | some after =>
            cases after with
            | nil => exact (hlast d' hadd hend).elim
            | cons c after => exact (hmore d' c after hadd hend).elim

/-- There is less text behind a line than with it. -/
theorem length_of_line (hstart : skipBlank cs = c :: tail)
    (hline : content (c :: tail) = some (line, rest)) (hend : lineEnd rest = some after) :
    after.length < cs.length := by
  have hle : (c :: tail).length ≤ cs.length := hstart ▸ length_skipBlank cs
  have hrest : rest.length ≤ (c :: tail).length := by
    unfold content at hline
    grind
  cases after with
  | nil => exact Nat.lt_of_lt_of_le (Nat.succ_pos _) hle
  | cons d after =>
    have := length_of_lineEnd hend
    omega

theorem lines_step (hstart : skipBlank cs = c :: tail)
    (hline : content (c :: tail) = some (line, rest)) (hadd : d.add line = some d')
    (hend : lineEnd rest = some after) : lines d cs = lines d' after := by
  simp only [lines_eq d cs, hstart, hline, hadd, hend, Option.bind_some]

theorem lines_step_append (h : IsEnded cs) (hstart : skipBlank cs = c :: tail)
    (hline : content (c :: tail) = some (line, rest)) (hadd : d.add line = some d')
    (hend : lineEnd rest = some after) (more : List Char) :
    lines d (cs ++ more) = lines d' (after ++ more) := by
  obtain ⟨hended, happend⟩ := leavesEnd_content (hstart ▸ h.skipBlank) _ _ hline
  have hstart' : skipBlank (cs ++ more) = c :: (tail ++ more) := by
    rw [skipBlank_append h, hstart, List.cons_append]
  exact lines_step hstart' (happend more) hadd ((lineEnd_append hended hend).2 more)

/-- A document goes on where its first lines have led. -/
theorem lines_append (h : IsEnded cs) (hlines : lines d cs = some d') (more : List Char) :
    lines d (cs ++ more) = lines d' more := by
  fun_induction lines d cs with
  | case1 d cs hstart => exact absurd hstart h.skipBlank.ne_nil
  | case2 => cases hlines
  | case3 d cs c tail hstart line rest hline d₁ hend hadd =>
    cases hlines
    exact lines_step_append h hstart hline hadd hend more
  | case4 d cs c tail hstart line rest hline d₁ c' after hend hadd _ ih =>
    have hrest := (leavesEnd_content (hstart ▸ h.skipBlank) _ _ hline).1
    rw [lines_step_append h hstart hline hadd hend more]
    exact ih ((lineEnd_append hrest hend).1 (List.cons_ne_nil _ _)) hlines
  | case5 => cases hlines

end Document

end lines

end PortShare.Toml
