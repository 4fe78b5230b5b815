import PortShare.Proofs.Toml.Lines

/-! Texts in double quotes. Such a text keeps to its line, and where nothing in it is escaped it is read
as it stands between its quotes. -/

namespace PortShare.Toml

section quoted

variable {cs rest : List Char}

/-- What an escape takes is no end of line. -/
theorem escape_keeps_line {c : Char} (h : escape cs = some (c, rest)) :
    ∃ taken, cs = taken ++ rest ∧ '\n' ∉ taken := by
  have hex {count : Nat} {cs : List Char} (h : hexChar count cs = some (c, rest)) :
      cs = cs.take count ++ rest ∧ '\n' ∉ cs.take count := by
    unfold hexChar at h
    split at h
    · cases h
    next n hn =>
      rw [Option.ite_none_right_eq_some] at h
      cases h.2
      exact ⟨(List.take_append_drop count cs).symm, not_mem_of_value? hn⟩
  unfold escape at h
  split at h
  case h_9 | h_10 | h_11 => 
    obtain ⟨hcs, hbreak⟩ := hex h
    exact ⟨_ :: _, congrArg _ hcs, by simp [hbreak]⟩
  case h_12 => cases h
  all_goals
    cases h
    exact ⟨[_], rfl, by decide⟩

/-- A text in double quotes ends on the line on which it begins. -/
theorem quotedText_keeps_line {text : List Char} (h : quotedText cs = some (text, rest)) :
    ∃ taken, cs = taken ++ '"' :: rest ∧ '\n' ∉ taken := by
  fun_induction quotedText cs generalizing text with
  | case1 => cases h
  | case2 =>
    cases h
    exact ⟨[], rfl, List.not_mem_nil⟩
  | case3 => cases h
  | case4 cs c rest' hescape _ ih =>
    obtain ⟨⟨inner, after⟩, hinner, heq⟩ := Option.map_eq_some_iff.mp h
    cases heq
    obtain ⟨taken, rfl, hbreak⟩ := escape_keeps_line hescape
    obtain ⟨taken', rfl, hbreak'⟩ := ih hinner
    exact ⟨'\\' :: (taken ++ taken'), by simp, by simp [hbreak, hbreak']⟩
  | case5 c cs _ _ hvisible ih =>
    obtain ⟨⟨inner, after⟩, hinner, heq⟩ := Option.map_eq_some_iff.mp h
    cases heq
    obtain ⟨taken, rfl, hbreak⟩ := ih hinner
    have hc : c ≠ '\n' := by
      rintro rfl
      cases hvisible
    exact ⟨c :: taken, rfl, by simp [hc.symm, hbreak]⟩
  | case6 => cases h

/-- In a text without quotes and backslashes every character stands for itself. -/
theorem quotedText_plain {text : List Char} (h : ∀ c ∈ text, c ≠ '"' ∧ c ≠ '\\')
    (rest : List Char) : quotedText (text ++ '"' :: rest) =
      if text.all isVisible then some (text, rest) else none := by
  induction text with
  | nil => rw [List.nil_append, quotedText]; rfl
  | cons c text ih =>
    obtain ⟨hquote, hslash⟩ := h c List.mem_cons_self
    have ih := ih fun d hd => h d (List.mem_cons_of_mem _ hd)
    rw [List.cons_append, quotedText_cons hquote hslash, ih]
    cases hc : isVisible c <;> cases ht : text.all isVisible <;> simp [hc, ht]

theorem dropWhile_dropWhile {p q : Char → Bool} (h : ∀ c, q c = true → p c = true)
    (cs : List Char) : (cs.dropWhile q).dropWhile p = cs.dropWhile p := by
  induction cs with
  | nil => rfl
  | cons c cs ih =>
    by_cases hq : q c = true
    · rw [List.dropWhile_cons_of_pos hq, List.dropWhile_cons_of_pos (h c hq), ih]
    · rw [List.dropWhile_cons_of_neg hq]

/-- Behind an end of line there is what stands behind the first line break. -/
theorem lineEnd_eq (h : lineEnd cs = some rest) : rest = (cs.dropWhile (· != '\n')).drop 1 := by
  have hskip : (skipComment (skipBlank cs)).dropWhile (· != '\n') = cs.dropWhile (· != '\n') := by
    have hblank : (skipBlank cs).dropWhile (· != '\n') = cs.dropWhile (· != '\n') :=
      dropWhile_dropWhile (fun c hc => by rw [bne_iff_ne]; rintro rfl; cases hc) cs
    rw [← hblank]
    unfold skipComment
    split
    next tail htail =>
      rw [htail, dropWhile_dropWhile fun c hc => by rw [bne_iff_ne]; rintro rfl; cases hc]
      rfl
    · rfl
  rw [← hskip]
  unfold lineEnd at h
  split at h
  next hnil =>
    rw [hnil]
    cases h
    rfl
  next hcons =>
    rw [hcons]
    unfold endOfLine? at h
    split at h
    next heq =>
      cases heq
      cases h
      rfl
    next heq =>
      cases heq
      cases h
      rfl
    · cases h

/-- Two ends of one line lead to the same next line. -/
theorem lineEnd_unique {front front' cs' rest' : List Char}
    (heq : front ++ '"' :: cs = front' ++ '"' :: cs') (hfront : '\n' ∉ front)
    (hfront' : '\n' ∉ front') (h : lineEnd cs = some rest) (h' : lineEnd cs' = some rest') :
    rest = rest' := by
  have behind {front : List Char} (hfront : '\n' ∉ front) (cs : List Char) :
      (front ++ '"' :: cs).dropWhile (· != '\n') = cs.dropWhile (· != '\n') := by
    rw [List.dropWhile_append_of_pos fun c hc => bne_iff_ne.mpr (ne_of_mem_of_not_mem hc hfront)]
    rfl
  rw [lineEnd_eq h, lineEnd_eq h', ← behind hfront cs, ← behind hfront' cs', heq]

end quoted

section entry

variable {blank key before behind : List Char} {c : Char} {cs : List Char}

theorem skipBlank_blanks (h : ∀ c ∈ blank, isBlank c = true) (hc : isBlank c = false)
    (cs : List Char) : skipBlank (blank ++ c :: cs) = c :: cs := by
  rw [skipBlank, List.dropWhile_append_of_pos h, List.dropWhile_cons_of_neg (by simp [hc])]

theorem bare_of_isBareKeyChar (hc : isBareKeyChar c = true) :
    c ≠ '"' ∧ c ≠ '\'' ∧ c ≠ '[' ∧ isBlank c = false ∧
      ∀ cs, Document.isEmptyLine (c :: cs) = false := by
  have hne {d : Char} (hd : isBareKeyChar d = false) : c ≠ d := by
    rintro rfl
    cases hc.symm.trans hd
  have hblank : c ≠ ' ' ∧ c ≠ '\t' := ⟨hne (by decide), hne (by decide)⟩
  have hempty : c ≠ '#' ∧ c ≠ '\n' ∧ c ≠ '\r' :=
    ⟨hne (by decide), hne (by decide), hne (by decide)⟩
  exact ⟨hne (by decide), hne (by decide), hne (by decide), by simp [isBlank, hblank],
    fun cs => by simp [Document.isEmptyLine, hempty]⟩

/-- A key without quotes, and what stands behind it. -/
theorem keyPath_bare (hne : key ≠ []) (hkey : ∀ c ∈ key, isBareKeyChar c = true)
    (hbefore : ∀ c ∈ before, isBlank c = true) (cs : List Char) :
    keyPath (key ++ (before ++ '=' :: cs)) = some ([String.ofList key], '=' :: cs) := by
  obtain ⟨c, key, rfl⟩ := List.exists_cons_of_ne_nil hne
  obtain ⟨hc, hkey⟩ := List.forall_mem_cons.mp hkey
  obtain ⟨hquote, hquote', -, -⟩ := bare_of_isBareKeyChar hc
  have hend : (before ++ '=' :: cs).takeWhile isBareKeyChar = [] ∧
      (before ++ '=' :: cs).dropWhile isBareKeyChar = before ++ '=' :: cs := by
    cases before with
    | nil => exact ⟨rfl, rfl⟩
    | cons b before =>
      have hb : ¬ isBareKeyChar b = true := fun hbare => by
        have := hbefore b List.mem_cons_self
        rw [(bare_of_isBareKeyChar hbare).2.2.2.1] at this
        cases this
      exact ⟨List.takeWhile_cons_of_neg hb, List.dropWhile_cons_of_neg hb⟩
  have hrun : simpleKey.run (c :: key ++ (before ++ '=' :: cs)) =
      some (String.ofList (c :: key), before ++ '=' :: cs) := by
    show runKey _ = _
    rw [List.cons_append, runKey_bare hquote hquote', if_pos hc,
      List.takeWhile_append_of_pos hkey, List.dropWhile_append_of_pos hkey, hend.1, hend.2,
      List.append_nil]
  have hsign : skipBlank (before ++ '=' :: cs) = '=' :: cs := skipBlank_blanks hbefore rfl cs
  have hparts := keyParts_last hrun fun tail htail => by cases hsign.symm.trans htail
  simp only [keyPath, hparts, hsign]
  rfl

/-- The line of an entry with a text in double quotes. -/
theorem content_bare (hne : key ≠ []) (hkey : ∀ c ∈ key, isBareKeyChar c = true)
    (hbefore : ∀ c ∈ before, isBlank c = true) (hbehind : ∀ c ∈ behind, isBlank c = true)
    (cs : List Char) :
    Document.content (key ++ (before ++ '=' :: (behind ++ '"' :: cs))) =
      (runText ('"' :: cs)).map fun (t, rest) =>
        (.entry [String.ofList key] (.text (String.ofList t)), rest) := by
  have hpath := keyPath_bare hne hkey hbefore (behind ++ '"' :: cs)
  have hvalue : (value maxDepth).run (skipGap false (behind ++ '"' :: cs)) =
      (runText ('"' :: cs)).map fun (t, rest) => (.text (String.ofList t), rest) := by
    show (value maxDepth).run (skipBlank _) = _
    rw [skipBlank_blanks hbehind rfl]
    rfl
  have hsign : skipGap false ('=' :: (behind ++ '"' :: cs)) = '=' :: (behind ++ '"' :: cs) := rfl
  obtain ⟨c, key, rfl⟩ := List.exists_cons_of_ne_nil hne
  obtain ⟨-, -, hlist, -, hempty⟩ := bare_of_isBareKeyChar (hkey c List.mem_cons_self)
  rw [List.cons_append] at hpath ⊢
  rw [Document.content, hempty, if_neg Bool.false_ne_true, lineContent_entry (by simpa using hlist),
    assignment_sign hpath hsign, hvalue, Option.map_map, Option.map_map]
  rfl

/-- The line of an entry with a text in double quotes, and the lines behind it. -/
theorem lines_bare (d : Document) {indent : List Char} (hindent : ∀ c ∈ indent, isBlank c = true)
    (hne : key ≠ []) (hkey : ∀ c ∈ key, isBareKeyChar c = true)
    (hbefore : ∀ c ∈ before, isBlank c = true) (hbehind : ∀ c ∈ behind, isBlank c = true)
    (cs : List Char) :
    Document.lines d (indent ++ (key ++ (before ++ '=' :: (behind ++ '"' :: cs)))) =
      (runText ('"' :: cs)).bind fun (t, rest) =>
        (d.add (.entry [String.ofList key] (.text (String.ofList t)))).bind fun d =>
          (lineEnd rest).bind fun after => Document.lines d after := by
  have hcontent := content_bare hne hkey hbefore hbehind cs
  obtain ⟨c, key, rfl⟩ := List.exists_cons_of_ne_nil hne
  obtain ⟨-, -, -, hblank, -⟩ := bare_of_isBareKeyChar (hkey c List.mem_cons_self)
  rw [List.cons_append] at hcontent ⊢
  rw [Document.lines_eq, skipBlank_blanks hindent hblank]
  simp only [hcontent, Option.bind_map]
  rfl

end entry

end PortShare.Toml
