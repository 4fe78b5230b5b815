import Mathlib.Data.List.TakeWhile
import PortShare.Toml.Document

/-! The lines of a document are read one after another: how an ended line is read does not depend on
what stands behind it. -/

namespace PortShare.Toml

/-- The last line of the text is ended. -/
def IsEnded (cs : List Char) : Prop := cs.getLast? = some '\n'

/-- The reader leaves the end of the last line, and what stands behind that too. -/
def LeavesEnd {α : Type} (run : List Char → Option (α × List Char)) (cs : List Char) : Prop :=
  ∀ a rest, run cs = some (a, rest) →
    IsEnded rest ∧ ∀ more, run (cs ++ more) = some (a, rest ++ more)

section ended

variable {c : Char} {cs rest : List Char} {p : Char → Bool}

theorem IsEnded.ne_nil (h : IsEnded cs) : cs ≠ [] := by
  rintro rfl
  cases h

theorem IsEnded.mem (h : IsEnded cs) : '\n' ∈ cs := List.mem_of_getLast? h

theorem IsEnded.tail (h : IsEnded (c :: cs)) (hc : c ≠ '\n') : IsEnded cs := by
  cases cs with
  | nil => exact absurd (Option.some.inj h) hc
  | cons d cs => simpa [IsEnded] using h

theorem IsEnded.tail_of_ne_nil (h : IsEnded (c :: cs)) (hcs : cs ≠ []) : IsEnded cs := by
  cases cs with
  | nil => exact absurd rfl hcs
  | cons d cs => simpa [IsEnded] using h

theorem IsEnded.cases (h : IsEnded cs) :
    cs = ['\n'] ∨ ∃ c d tail, cs = c :: d :: tail ∧ IsEnded (d :: tail) := by
  match cs, h with
  | [c], h => exact .inl (congrArg (fun c => [c]) (Option.some.inj h))
  | c :: d :: tail, h => exact .inr ⟨c, d, tail, rfl, h.tail_of_ne_nil (List.cons_ne_nil _ _)⟩

theorem IsEnded.of_suffix (h : IsEnded cs) (hr : rest <:+ cs) (hn : rest ≠ []) : IsEnded rest := by
  obtain ⟨front, rfl⟩ := hr
  rw [IsEnded, List.getLast?_append, Option.or_eq_some_iff] at h
  exact h.resolve_right fun h => hn (List.getLast?_eq_none_iff.mp h.1)

theorem IsEnded.dropWhile (h : IsEnded cs) (hp : p '\n' = false) : IsEnded (cs.dropWhile p) := by
  refine h.of_suffix (List.dropWhile_suffix p) fun hn => ?_
  have := List.dropWhile_eq_nil_iff.mp hn _ h.mem
  simp [hp] at this

theorem IsEnded.dropWhile_append (h : IsEnded cs) (hp : p '\n' = false) (more : List Char) :
    (cs ++ more).dropWhile p = cs.dropWhile p ++ more := by
  rw [List.dropWhile_append, if_neg]
  simpa using (h.dropWhile hp).ne_nil

theorem IsEnded.takeWhile_append (h : IsEnded cs) (hp : p '\n' = false) (more : List Char) :
    (cs ++ more).takeWhile p = cs.takeWhile p := by
  rw [List.takeWhile_append, if_neg]
  intro hl
  have hall := List.takeWhile_eq_self_iff.mp ((List.takeWhile_prefix p).eq_of_length hl) _ h.mem
  simp [hp] at hall

theorem drop_takeWhile (p : Char → Bool) (cs : List Char) :
    cs.drop (cs.takeWhile p).length = cs.dropWhile p := by
  calc cs.drop (cs.takeWhile p).length
      = (cs.takeWhile p ++ cs.dropWhile p).drop (cs.takeWhile p).length := by
        rw [List.takeWhile_append_dropWhile]
    _ = cs.dropWhile p := List.drop_left

theorem IsEnded.append_ne_cons (h : IsEnded cs) (hc : ∀ rest, cs ≠ c :: rest)
    (more rest : List Char) : cs ++ more ≠ c :: rest := by
  obtain ⟨d, cs, rfl⟩ := List.exists_cons_of_ne_nil h.ne_nil
  intro heq
  obtain ⟨rfl, -⟩ := List.cons.inj heq
  exact hc cs rfl

/-- What is in front of the end of the last line can be taken off. -/
theorem IsEnded.drop {n : Nat} (h : IsEnded cs) (hn : '\n' ∉ cs.take n) :
    IsEnded (cs.drop n) ∧ n ≤ cs.length := by
  have hlt : n < cs.length := by
    by_contra hle
    rw [List.take_of_length_le (Nat.not_lt.mp hle)] at hn
    exact hn h.mem
  exact ⟨h.of_suffix (List.drop_suffix n cs) (by simpa using hlt), Nat.le_of_lt hlt⟩

theorem IsEnded.drop_word {word : List Char} (h : IsEnded cs) (hword : word <+: cs)
    (hbreak : '\n' ∉ word) : IsEnded (cs.drop word.length) ∧
      ∀ more, (cs ++ more).drop word.length = cs.drop word.length ++ more := by
  rw [List.prefix_iff_eq_take.mp hword] at hbreak
  obtain ⟨hended, hle⟩ := h.drop hbreak
  exact ⟨hended, fun more => List.drop_append_of_le_length hle⟩

end ended

section readers

variable {α β : Type} {f : List Char → Option (α × List Char)} {cs rest : List Char}

theorem LeavesEnd.of_eq_none (h : f cs = none) : LeavesEnd f cs := by
  intro a rest hrun
  rw [h] at hrun
  cases hrun

theorem LeavesEnd.map {g : List Char → Option (β × List Char)} (h : LeavesEnd g cs) (k : β → α) :
    LeavesEnd (fun cs => (g cs).map fun (b, rest) => (k b, rest)) cs := by
  intro a rest hrun
  obtain ⟨⟨b, rest⟩, hg, hab⟩ := Option.map_eq_some_iff.mp hrun
  cases hab
  obtain ⟨hended, happend⟩ := h b rest hg
  exact ⟨hended, fun more => by simp only [happend, Option.map_some]⟩

/-- A reader goes on as another one does behind a part of the text. -/
theorem LeavesEnd.behind {g : List Char → Option (α × List Char)} (h : LeavesEnd g rest)
    (hrun : f cs = g rest) (happend : ∀ more, f (cs ++ more) = g (rest ++ more)) :
    LeavesEnd f cs := by
  intro a after hf
  obtain ⟨hended, hg⟩ := h a after (hrun ▸ hf)
  exact ⟨hended, fun more => (happend more).trans (hg more)⟩

end readers

section lexemes

variable {cs : List Char}

theorem IsEnded.skipBlank (h : IsEnded cs) : IsEnded (skipBlank cs) := h.dropWhile rfl

theorem skipBlank_append (h : IsEnded cs) (more : List Char) :
    skipBlank (cs ++ more) = skipBlank cs ++ more := h.dropWhile_append rfl more

theorem IsEnded.skipComment (h : IsEnded cs) : IsEnded (skipComment cs) := by
  unfold Toml.skipComment
  split
  · exact (h.tail (by decide)).dropWhile rfl
  · exact h

theorem skipComment_append (h : IsEnded cs) (more : List Char) :
    skipComment (cs ++ more) = skipComment cs ++ more := by
  obtain ⟨c, cs, rfl⟩ := List.exists_cons_of_ne_nil h.ne_nil
  by_cases hc : c = '#'
  · subst hc
    exact (h.tail (by decide)).dropWhile_append rfl more
  · simp [skipComment, hc]

theorem endOfLine?_append (h : IsEnded cs) (more : List Char) :
    endOfLine? (cs ++ more) = (endOfLine? cs).map (· ++ more) := by
  rcases h.cases with rfl | ⟨c, d, tail, rfl, -⟩
  · rfl
  · simp only [endOfLine?, List.cons_append]
    split <;> simp_all

theorem endOfLine?_suffix {rest : List Char} (h : endOfLine? cs = some rest) : rest <:+ cs := by
  unfold endOfLine? at h
  split at h
  · cases h
    exact List.suffix_cons _ _
  · cases h
    exact (List.suffix_cons _ _).trans (List.suffix_cons _ _)
  · cases h

theorem skipFiller_eq (cs : List Char) : skipFiller cs =
    match endOfLine? (skipComment (skipBlank cs)) with
    | none => skipComment (skipBlank cs)
    | some rest => skipFiller rest := by
  rw [skipFiller]
  split <;> simp_all

theorem lineBreak?_append (h : IsEnded cs) (more : List Char) :
    endOfLine? (skipComment (skipBlank (cs ++ more))) =
      (endOfLine? (skipComment (skipBlank cs))).map (· ++ more) := by
  rw [skipBlank_append h, skipComment_append h.skipBlank, endOfLine?_append h.skipBlank.skipComment]

theorem skipFiller_append (h : IsEnded cs) (hne : skipFiller cs ≠ []) :
    IsEnded (skipFiller cs) ∧ ∀ more, skipFiller (cs ++ more) = skipFiller cs ++ more := by
  fun_induction skipFiller cs with
  | case1 cs hend =>
    refine ⟨h.skipBlank.skipComment, fun more => ?_⟩
    rw [skipFiller_eq, lineBreak?_append h, hend, skipBlank_append h,
      skipComment_append h.skipBlank]
    rfl
  | case2 cs rest hend _ ih =>
    have hrest : rest ≠ [] := by
      rintro rfl
      exact hne (by simp [skipFiller_eq, skipBlank, skipComment, endOfLine?])
    have hended := h.skipBlank.skipComment.of_suffix (endOfLine?_suffix hend) hrest
    obtain ⟨hleft, heq⟩ := ih hended hne
    refine ⟨hleft, fun more => ?_⟩
    rw [skipFiller_eq, lineBreak?_append h, hend]
    exact heq more

theorem skipGap_append {across : Bool} (h : IsEnded cs) (hne : skipGap across cs ≠ []) :
    IsEnded (skipGap across cs) ∧
      ∀ more, skipGap across (cs ++ more) = skipGap across cs ++ more := by
  cases across with
  | false => exact ⟨h.skipBlank, skipBlank_append h⟩
  | true => exact skipFiller_append h hne

/-- A sign behind a gap. -/
theorem skipGap_sign (across : Bool) {c : Char} {rest : List Char} (h : IsEnded cs)
    (hsign : skipGap across cs = c :: rest) (hc : c ≠ '\n') :
    IsEnded rest ∧ ∀ more, skipGap across (cs ++ more) = c :: (rest ++ more) := by
  have hne : skipGap across cs ≠ [] := by simp [hsign]
  obtain ⟨hended, happend⟩ := skipGap_append h hne
  rw [hsign] at hended happend
  exact ⟨hended.tail hc, happend⟩

/-- An ended line is the last one, or there is another ended one behind it. -/
theorem lineEnd_append (h : IsEnded cs) {rest : List Char} (hrest : lineEnd cs = some rest) :
    (rest ≠ [] → IsEnded rest) ∧ ∀ more, lineEnd (cs ++ more) = some (rest ++ more) := by
  have hbehind := h.skipBlank.skipComment
  obtain ⟨c, tail, hc⟩ := List.exists_cons_of_ne_nil hbehind.ne_nil
  have hend : endOfLine? (skipComment (skipBlank cs)) = some rest := by
    rw [← hrest, lineEnd, hc]
  refine ⟨hbehind.of_suffix (endOfLine?_suffix hend), fun more => ?_⟩
  rw [lineEnd, skipBlank_append h, skipComment_append h.skipBlank, hc, List.cons_append]
  simp only
  rw [← List.cons_append, ← hc, endOfLine?_append hbehind, hend, Option.map_some]

end lexemes

section texts

variable {cs : List Char}

theorem not_mem_of_value? {n : Nat} (h : Numeral.value? 16 cs = some n) : '\n' ∉ cs := by
  rw [Numeral.value?, Option.ite_none_right_eq_some] at h
  exact fun hm => absurd (List.all_eq_true.mp h.1.2 _ hm) (by decide)

theorem leavesEnd_hexChar (count : Nat) (h : IsEnded cs) : LeavesEnd (hexChar count) cs := by
  intro a rest hrun
  unfold hexChar at hrun
  split at hrun
  · cases hrun
  next n hn =>
    rw [Option.ite_none_right_eq_some] at hrun
    obtain ⟨hvalid, hrest⟩ := hrun
    cases hrest
    obtain ⟨hended, hle⟩ := h.drop (not_mem_of_value? hn)
    refine ⟨hended, fun more => ?_⟩
    simp only [hexChar, List.take_append_of_le_length hle, List.drop_append_of_le_length hle, hn,
      if_pos hvalid]

theorem leavesEnd_escape (h : IsEnded cs) : LeavesEnd escape cs := by
  intro a rest hrun
  unfold escape at hrun
  split at hrun
  case h_9 | h_10 | h_11 =>
    obtain ⟨hended, happend⟩ := leavesEnd_hexChar _ (h.tail (by decide)) _ _ hrun
    exact ⟨hended, happend⟩
  case h_12 => cases hrun
  all_goals
    cases hrun
    exact ⟨h.tail (by decide), fun _ => rfl⟩

theorem quotedText_escape {c : Char} {rest : List Char} (h : escape cs = some (c, rest)) :
    quotedText ('\\' :: cs) = (quotedText rest).map fun (text, after) => (c :: text, after) := by
  rw [quotedText]
  split <;> simp_all

theorem quotedText_cons {c : Char} (hquote : c ≠ '"') (hslash : c ≠ '\\') (cs : List Char) :
    quotedText (c :: cs) = if isVisible c then
      (quotedText cs).map fun (text, after) => (c :: text, after) else none := by
  rw [quotedText] <;> simp_all

theorem leavesEnd_quotedText (h : IsEnded cs) : LeavesEnd quotedText cs := by
  fun_induction quotedText cs with
  | case1 => cases h
  | case2 cs =>
    intro a rest hrun
    rw [quotedText] at hrun
    cases hrun
    exact ⟨h.tail (by decide), fun _ => by rw [List.cons_append, quotedText]⟩
  | case3 cs hescape =>
    refine .of_eq_none ?_
    rw [quotedText]
    split <;> simp_all
  | case4 cs c rest hescape _ ih =>
    obtain ⟨hrest, happend⟩ := leavesEnd_escape (h.tail (by decide)) _ _ hescape
    exact ((ih hrest).map (c :: ·)).behind (quotedText_escape hescape)
      fun more => quotedText_escape (happend more)
  | case5 c cs hquote hslash hvisible ih =>
    have hcs := h.tail (by rintro rfl; cases hvisible)
    refine ((ih hcs).map (c :: ·)).behind ?_ fun more => ?_
    · rw [quotedText_cons hquote hslash, if_pos hvisible]
    · rw [List.cons_append, quotedText_cons hquote hslash, if_pos hvisible]
  | case6 c cs hquote hslash hvisible =>
    exact .of_eq_none (by rw [quotedText_cons hquote hslash, if_neg hvisible])

theorem leavesEnd_literalText (h : IsEnded cs) : LeavesEnd literalText cs := by
  intro a rest hrun
  have hdropped := h.dropWhile (p := fun c => isVisible c && c != '\'') rfl
  simp only [literalText, drop_takeWhile] at hrun ⊢
  split at hrun
  next heq =>
    cases hrun
    rw [heq] at hdropped
    refine ⟨hdropped.tail (by decide), fun more => ?_⟩
    rw [h.takeWhile_append rfl, h.dropWhile_append rfl, heq]
    rfl
  · cases hrun

/-- The quotes at the head of a text of several lines, up to five. -/
theorem closing_run {quote : Char} (h : IsEnded cs) (hquote : quote ≠ '\n') :
    let run := (cs.take 5).takeWhile (· == quote)
    (IsEnded (cs.drop run.length)) ∧ ∀ more,
      ((cs ++ more).take 5).takeWhile (· == quote) = run ∧
      (cs ++ more).drop run.length = cs.drop run.length ++ more := by
  intro run
  have hstarts : run <+: cs := (List.takeWhile_prefix _).trans (List.take_prefix 5 cs)
  have hbreak : '\n' ∉ run := fun hm => by
    have hn := List.mem_takeWhile_imp (p := (· == quote)) hm
    exact hquote (beq_iff_eq.mp hn).symm
  obtain ⟨hended, hdrop⟩ := h.drop_word hstarts hbreak
  refine ⟨hended, fun more => ⟨?_, hdrop more⟩⟩
  have hp : ('\n' == quote) = false := beq_false_of_ne hquote.symm
  rw [← List.take_takeWhile, h.takeWhile_append (p := (· == quote)) hp, List.take_takeWhile]

theorem closing?_append {quote : Char} (h : IsEnded cs) (hquote : quote ≠ '\n') (more : List Char) :
    closing? quote (cs ++ more) =
      (closing? quote cs).map fun (text, rest) => (text, rest ++ more) := by
  obtain ⟨hrun, hdrop⟩ := (closing_run h hquote).2 more
  simp only [closing?, hrun, hdrop]
  split <;> rfl

theorem leavesEnd_closing? {quote : Char} (h : IsEnded cs) (hquote : quote ≠ '\n') :
    LeavesEnd (closing? quote) cs := by
  intro a rest hrun
  refine ⟨?_, fun more => by rw [closing?_append h hquote, hrun, Option.map_some]⟩
  simp only [closing?, Option.ite_none_left_eq_some] at hrun
  cases hrun.2
  exact (closing_run h hquote).1

theorem skipBreaks_blank {c : Char} (hc : (isBlank c || c == '\n') = true) (cs : List Char) :
    skipBreaks (c :: cs) = skipBreaks cs := by
  rw [skipBreaks, if_pos hc]
  rintro _ rfl
  cases hc

theorem skipBreaks_append (h : IsEnded cs) (hne : skipBreaks cs ≠ []) :
    IsEnded (skipBreaks cs) ∧ ∀ more, skipBreaks (cs ++ more) = skipBreaks cs ++ more := by
  have hnil : skipBreaks [] = [] := by rw [skipBreaks]
  fun_induction skipBreaks cs with
  | case1 cs ih =>
    have hcs : IsEnded cs := h.of_suffix ((List.suffix_cons _ _).trans (List.suffix_cons _ _))
      (by rintro rfl; exact hne hnil)
    refine ⟨(ih hcs hne).1, fun more => ?_⟩
    rw [List.cons_append, List.cons_append, skipBreaks]
    exact (ih hcs hne).2 more
  | case2 c cs _ hc ih =>
    have hcs := h.tail_of_ne_nil (by rintro rfl; exact hne hnil)
    refine ⟨(ih hcs hne).1, fun more => ?_⟩
    rw [List.cons_append, skipBreaks_blank hc]
    exact (ih hcs hne).2 more
  | case3 c cs hbreak hc =>
    refine ⟨h, fun more => ?_⟩
    rw [List.cons_append, skipBreaks, if_neg hc]
    rintro tail rfl
    exact (h.tail (by decide)).append_ne_cons (fun rest hcs => hbreak rest rfl hcs) more tail
  | case4 => cases h

theorem continuation?_append (h : IsEnded cs) : 
    (continuation? cs = none → ∀ more, continuation? (cs ++ more) = none) ∧
    ∀ rest, continuation? cs = some rest → rest ≠ [] →
      IsEnded rest ∧ ∀ more, continuation? (cs ++ more) = some (rest ++ more) := by
  have happend (more : List Char) : endOfLine? (skipBlank (cs ++ more)) =
      (endOfLine? (skipBlank cs)).map (· ++ more) := by
    rw [skipBlank_append h, endOfLine?_append h.skipBlank]
  simp only [continuation?, happend]
  cases hend : endOfLine? (skipBlank cs) with
  | none => exact ⟨fun _ _ => rfl, fun _ hrest => nomatch hrest⟩
  | some tail =>
    refine ⟨(nomatch ·), fun rest hrest hne => ?_⟩
    obtain rfl := Option.some.inj hrest
    have htail : IsEnded tail := h.skipBlank.of_suffix (endOfLine?_suffix hend)
      (by rintro rfl; exact hne (by rw [skipBreaks]))
    obtain ⟨hended, hskip⟩ := skipBreaks_append htail hne
    exact ⟨hended, fun more => congrArg some (hskip more)⟩

section long

variable {quote : Char}

theorem longText_nil : longText quote [] = none := by
  rw [longText.eq_def]
  rfl

theorem longText_closing {result : List Char × List Char} (h : closing? quote cs = some result) :
    longText quote cs = some result := by
  rw [longText.eq_def, h]

theorem longText_continuation {rest : List Char} (h : closing? '"' ('\\' :: cs) = none)
    (hrest : continuation? cs = some rest) : longText '"' ('\\' :: cs) = longText '"' rest := by
  rw [longText.eq_def, h]
  simp only [beq_self_eq_true, Bool.and_self, if_true]
  split <;> simp_all

theorem longText_escape {c : Char} {rest : List Char} (h : closing? '"' ('\\' :: cs) = none)
    (hbreak : continuation? cs = none) (hrest : escape cs = some (c, rest)) :
    longText '"' ('\\' :: cs) =
      (longText '"' rest).map fun (text, after) => (c :: text, after) := by
  rw [longText.eq_def, h]
  simp only [beq_self_eq_true, Bool.and_self, if_true]
  split
  · simp_all
  · split <;> simp_all

theorem longText_cons {c : Char} (h : closing? quote (c :: cs) = none)
    (hslash : ¬ (c == '\\' && quote == '"') = true)
    (hc : (isVisible c || c == '\n' || (c == '\r' && cs.head? == some '\n')) = true) :
    longText quote (c :: cs) =
      (longText quote cs).map fun (text, after) => (c :: text, after) := by
  rw [longText.eq_def, h]
  simp only [if_neg hslash, if_pos hc]

end long

theorem leavesEnd_longText {quote : Char} (h : IsEnded cs) (hquote : quote ≠ '\n') :
    LeavesEnd (longText quote) cs := by
  have open_ {cs : List Char} (h : IsEnded cs) (hc : closing? quote cs = none) (more : List Char) :
      closing? quote (cs ++ more) = none := by
    rw [closing?_append h hquote, hc, Option.map_none]
  fun_induction longText quote cs with
  | case1 cs result hc =>
    intro a rest hrun
    rw [longText_closing hc] at hrun
    obtain ⟨hended, happend⟩ := leavesEnd_closing? h hquote _ _ (hc.trans hrun)
    exact ⟨hended, fun more => longText_closing (happend more)⟩
  | case2 => cases h
  | case3 c cs hslash rest hbreak _ hc ih =>
    obtain ⟨rfl, rfl⟩ : c = '\\' ∧ quote = '"' := by simpa using hslash
    have hrun := longText_continuation hc hbreak
    by_cases hrest : rest = []
    · refine .of_eq_none ?_
      rw [hrun, hrest, longText_nil]
    · obtain ⟨hended, happend⟩ := (continuation?_append (h.tail (by decide))).2 _ hbreak hrest
      exact (ih hended).behind hrun fun more =>
        longText_continuation (open_ h hc more) (happend more)
  | case4 c cs hslash hbreak hescape hc =>
    obtain ⟨rfl, rfl⟩ : c = '\\' ∧ quote = '"' := by simpa using hslash
    refine .of_eq_none ?_
    rw [longText.eq_def, hc]
    simp only [hslash, if_true]
    split
    · simp_all
    · split <;> simp_all
  | case5 c cs hslash hbreak d rest hescape _ hc ih =>
    obtain ⟨rfl, rfl⟩ : c = '\\' ∧ quote = '"' := by simpa using hslash
    have hcs := h.tail (by decide)
    obtain ⟨hended, happend⟩ := leavesEnd_escape hcs _ _ hescape
    exact ((ih hended).map (d :: ·)).behind (longText_escape hc hbreak hescape) fun more =>
      longText_escape (open_ h hc more) ((continuation?_append hcs).1 hbreak more) (happend more)
  | case6 c cs hslash hvisible hc ih =>
    by_cases hcs : cs = []
    · refine .of_eq_none ?_
      rw [longText_cons hc hslash hvisible, hcs, longText_nil, Option.map_none]
    · refine ((ih (h.tail_of_ne_nil hcs)).map (c :: ·)).behind (longText_cons hc hslash hvisible)
        fun more => longText_cons (open_ h hc more) hslash ?_
      obtain ⟨d, cs, rfl⟩ := List.exists_cons_of_ne_nil hcs
      exact hvisible
  | case7 c cs hslash hvisible hc =>
    refine .of_eq_none ?_
    rw [longText.eq_def, hc]
    simp only [if_neg hslash, if_neg hvisible]

/-- The text behind three quotes. -/
theorem leavesEnd_openedText {quote : Char} (h : IsEnded cs) (hquote : quote ≠ '\n') :
    LeavesEnd (fun cs => longText quote (withoutFirstBreak cs)) cs := by
  unfold withoutFirstBreak
  cases hbreak : endOfLine? cs with
  | none =>
    refine (leavesEnd_longText h hquote).behind ?_ fun more => ?_
    · simp only [hbreak, Option.getD_none]
    · simp only [endOfLine?_append h, hbreak, Option.map_none, Option.getD_none]
  | some rest =>
    by_cases hrest : rest = []
    · refine .of_eq_none ?_
      simp only [hbreak, Option.getD_some, hrest, longText_nil]
    · have hended := h.of_suffix (endOfLine?_suffix hbreak) hrest
      refine (leavesEnd_longText hended hquote).behind ?_ fun more => ?_
      · simp only [hbreak, Option.getD_some]
      · simp only [endOfLine?_append h, hbreak, Option.map_some, Option.getD_some]

theorem runText_quoted (h : ¬ ['"', '"'] <+: cs) : runText ('"' :: cs) = quotedText cs := by
  unfold runText
  split <;> simp_all

theorem runText_literal (h : ¬ ['\'', '\''] <+: cs) : runText ('\'' :: cs) = literalText cs := by
  unfold runText
  split <;> simp_all

theorem IsEnded.prefix_of_append {word more : List Char} (h : IsEnded cs) (hbreak : '\n' ∉ word)
    (hword : word <+: cs ++ more) : word <+: cs := by
  rcases List.prefix_or_prefix_of_prefix hword (List.prefix_append cs more) with hw | hw
  · exact hw
  · exact absurd (hw.subset h.mem) hbreak

theorem leavesEnd_runText (h : IsEnded cs) : LeavesEnd runText cs := by
  obtain ⟨c, cs, rfl⟩ := List.exists_cons_of_ne_nil h.ne_nil
  by_cases hquote : c = '"'
  · subst hquote
    have hcs := h.tail (by decide)
    by_cases hlong : ['"', '"'] <+: cs
    · obtain ⟨cs, rfl⟩ := hlong
      exact (leavesEnd_openedText ((hcs.tail (by decide)).tail (by decide)) (by decide)).behind rfl
        fun _ => rfl
    · exact (leavesEnd_quotedText hcs).behind (runText_quoted hlong) fun _ =>
        runText_quoted (mt (hcs.prefix_of_append (by decide)) hlong)
  by_cases hquote' : c = '\''
  · subst hquote'
    have hcs := h.tail (by decide)
    by_cases hlong : ['\'', '\''] <+: cs
    · obtain ⟨cs, rfl⟩ := hlong
      exact (leavesEnd_openedText ((hcs.tail (by decide)).tail (by decide)) (by decide)).behind rfl
        fun _ => rfl
    · exact (leavesEnd_literalText hcs).behind (runText_literal hlong) fun _ =>
        runText_literal (mt (hcs.prefix_of_append (by decide)) hlong)
  · refine .of_eq_none ?_
    unfold runText
    split <;> simp_all

end texts

section keys

variable {cs : List Char}

theorem runKey_bare {c : Char} (hquote : c ≠ '"') (hquote' : c ≠ '\'') (cs : List Char) :
    runKey (c :: cs) = if isBareKeyChar c then
      some (String.ofList (c :: cs.takeWhile isBareKeyChar), cs.dropWhile isBareKeyChar)
      else none := by
  unfold runKey
  split <;> simp_all

theorem leavesEnd_runKey (h : IsEnded cs) : LeavesEnd runKey cs := by
  obtain ⟨c, cs, rfl⟩ := List.exists_cons_of_ne_nil h.ne_nil
  by_cases hquote : c = '"'
  · subst hquote
    exact ((leavesEnd_quotedText (h.tail (by decide))).map String.ofList).behind rfl fun _ => rfl
  by_cases hquote' : c = '\''
  · subst hquote'
    exact ((leavesEnd_literalText (h.tail (by decide))).map String.ofList).behind rfl fun _ => rfl
  · intro key rest hrun
    rw [runKey_bare hquote hquote', Option.ite_none_right_eq_some] at hrun
    obtain ⟨hc, hrun⟩ := hrun
    cases hrun
    have hcs := h.tail (by rintro rfl; cases hc)
    refine ⟨hcs.dropWhile rfl, fun more => ?_⟩
    rw [List.cons_append, runKey_bare hquote hquote', if_pos hc, hcs.takeWhile_append rfl,
      hcs.dropWhile_append rfl]

theorem keyParts_eq (cs : List Char) : keyParts cs =
    match simpleKey.run cs with
    | none => none
    | some (key, rest) =>
      match skipBlank rest with
      | '.' :: rest => (keyParts (skipBlank rest)).map fun (keys, after) => (key :: keys, after)
      | rest => some ([key], rest) := by
  rw [keyParts]
  split
  · simp_all
  · split <;> simp_all

section parts

variable {key : String} {rest : List Char}

theorem keyParts_point {tail : List Char} (hkey : simpleKey.run cs = some (key, rest))
    (hpoint : skipBlank rest = '.' :: tail) : keyParts cs =
      (keyParts (skipBlank tail)).map fun (keys, after) => (key :: keys, after) := by
  rw [keyParts_eq, hkey]
  simp only [hpoint]

theorem keyParts_last (hkey : simpleKey.run cs = some (key, rest))
    (hpoint : ∀ tail, skipBlank rest ≠ '.' :: tail) :
    keyParts cs = some ([key], skipBlank rest) := by
  rw [keyParts_eq, hkey]
  simp only

end parts

theorem leavesEnd_keyParts (h : IsEnded cs) : LeavesEnd keyParts cs := by
  fun_induction keyParts cs with
  | case1 cs hkey =>
    refine .of_eq_none ?_
    rw [keyParts_eq, hkey]
  | case2 cs key rest hkey tail hpoint _ ih =>
    obtain ⟨hrest, happend⟩ := leavesEnd_runKey h _ _ hkey
    have htail : IsEnded tail := (hpoint ▸ hrest.skipBlank).tail (by decide)
    refine ((ih htail.skipBlank).map (key :: ·)).behind (keyParts_point hkey hpoint) fun more => ?_
    have hpoint' : skipBlank (rest ++ more) = '.' :: (tail ++ more) := by
      rw [skipBlank_append hrest, hpoint, List.cons_append]
    rw [keyParts_point (happend more) hpoint', skipBlank_append htail]
  | case3 cs key rest hkey hpoint =>
    intro keys after hrun
    obtain ⟨hrest, happend⟩ := leavesEnd_runKey h _ _ hkey
    rw [keyParts_last hkey hpoint] at hrun
    cases hrun
    refine ⟨hrest.skipBlank, fun more => ?_⟩
    rw [keyParts_last (happend more), skipBlank_append hrest]
    rw [skipBlank_append hrest]
    exact hrest.skipBlank.append_ne_cons hpoint more

theorem leavesEnd_keyPath (h : IsEnded cs) : LeavesEnd keyPath cs := by
  intro keys rest hrun
  unfold keyPath at hrun
  split at hrun
  next hkeys =>
    rw [Option.ite_none_right_eq_some] at hrun
    obtain ⟨hle, hrun⟩ := hrun
    cases hrun
    obtain ⟨hended, happend⟩ := leavesEnd_keyParts h _ _ hkeys
    exact ⟨hended, fun more => by simp only [keyPath, happend, if_pos hle]⟩
  · cases hrun

end keys

end PortShare.Toml
