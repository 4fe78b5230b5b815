import PortShare.Proofs.Json.Skipping

/-! What is read depends on the bytes that are taken and on no others. Only a number has to look at
the byte behind it; a text, a list or an object ends where it says so itself. -/

namespace PortShare.Json

section extent

variable {β : Type} {f : Bytes → β} {bs rest : Bytes} {out : Bytes → β}

/-- Of `bs`, all but `rest` is taken, and so it is with anything else behind it. -/
def Delimited (f : Bytes → β) (bs rest : Bytes) (out : Bytes → β) : Prop :=
  ∃ taken, bs = taken ++ rest ∧ ∀ more, f (taken ++ more) = out more

/-- Of `bs`, all but `rest` is taken, and so it is with the same byte next, or none. -/
def Peeks (f : Bytes → β) (bs rest : Bytes) (out : Bytes → β) : Prop :=
  ∃ taken, bs = taken ++ rest ∧ ∀ more, more.head? = rest.head? → f (taken ++ more) = out more

theorem Delimited.peeks (h : Delimited f bs rest out) : Peeks f bs rest out := by
  obtain ⟨taken, hbs, ht⟩ := h
  exact ⟨taken, hbs, fun more _ => ht more⟩

theorem head?_append_congr {more rest : Bytes} (h : more.head? = rest.head?) (taken : Bytes) :
    (taken ++ more).head? = (taken ++ rest).head? := by
  rw [List.head?_append, List.head?_append, h]

theorem Peeks.nothing (h : ∀ more, more.head? = bs.head? → f more = out more) :
    Peeks f bs bs out := ⟨[], rfl, h⟩

/-- Behind some bytes of its own, `f` goes on as `g` does. -/
theorem Delimited.behind {front after : Bytes} {g : Bytes → β} (h : Delimited g after rest out)
    (hf : ∀ more, f (front ++ more) = g more) : Delimited f (front ++ after) rest out := by
  obtain ⟨taken, rfl, ht⟩ := h
  refine ⟨front ++ taken, (List.append_assoc ..).symm, fun more => ?_⟩
  rw [List.append_assoc, hf, ht]

theorem Peeks.behind {front after : Bytes} {g : Bytes → β} (h : Peeks g after rest out)
    (hf : ∀ more, f (front ++ more) = g more) : Peeks f (front ++ after) rest out := by
  obtain ⟨taken, rfl, ht⟩ := h
  refine ⟨front ++ taken, (List.append_assoc ..).symm, fun more hm => ?_⟩
  rw [List.append_assoc, hf, ht more hm]

theorem Peeks.behind_byte {b : UInt8} {after : Bytes} {g : Bytes → β} (h : Peeks g after rest out)
    (hf : ∀ more, f (b :: more) = g more) : Peeks f (b :: after) rest out := by
  rw [← List.singleton_append]
  exact h.behind hf

theorem exists_tail {b : UInt8} {taken : Bytes} (h : b :: bs = taken ++ rest)
    (hl : rest.length < (b :: bs).length) : ∃ tail, taken = b :: tail ∧ bs = tail ++ rest := by
  cases taken with
  | nil =>
    rw [h] at hl
    exact absurd hl (Nat.lt_irrefl _)
  | cons c tail =>
    obtain ⟨rfl, rfl⟩ := List.cons.inj h
    exact ⟨tail, rfl, rfl⟩

/-- What takes any byte takes the first one. -/
theorem Peeks.tail {b : UInt8} (h : Peeks f (b :: bs) rest out)
    (hl : rest.length < (b :: bs).length) : Peeks (fun bs => f (b :: bs)) bs rest out := by
  obtain ⟨_, hbs, ht⟩ := h
  obtain ⟨taken, rfl, rfl⟩ := exists_tail hbs hl
  exact ⟨taken, rfl, ht⟩

end extent

section text

variable {bs rest : Bytes}

theorem exists_blank {b : UInt8} (h : skipBlank bs = b :: rest) :
    ∃ blank, Blank blank ∧ isBlank b = false ∧ bs = blank ++ b :: rest := by
  refine ⟨bs.takeWhile isBlank, fun c hc => ?_, ?_, ?_⟩
  · exact isBlank_iff.mp (List.all_eq_true.mp List.all_takeWhile c hc)
  · have := List.head?_dropWhile_not isBlank bs
    rw [skipBlank] at h
    simpa [h] using this
  · rw [← h]
    exact List.takeWhile_append_dropWhile.symm

theorem delimited_skipBlank {b : UInt8} (h : skipBlank bs = b :: rest) :
    Delimited skipBlank bs rest fun more => b :: more := by
  obtain ⟨blank, hw, hb, rfl⟩ := exists_blank h
  refine ⟨blank ++ [b], by simp, fun more => ?_⟩
  rw [List.append_assoc]
  exact skipBlank_append_cons hw hb more

theorem delimited_word {ws : Bytes} (h : word ws bs = .ok rest) :
    Delimited (word ws) bs rest .ok := by
  fun_induction word ws bs with
  | case1 bs =>
    cases h
    exact ⟨[], rfl, fun more => by rw [List.nil_append, word]⟩
  | case2 => cases h
  | case3 ws w bs ih =>
    obtain ⟨taken, rfl, ht⟩ := ih h
    exact ⟨w :: taken, rfl, fun more => by rw [List.cons_append, word, if_pos rfl, ht]⟩
  | case4 => cases h

theorem delimited_hexQuad {n : Nat} (h : hexQuad bs = .ok (n, rest)) :
    Delimited hexQuad bs rest fun more => .ok (n, more) := by
  unfold hexQuad at h
  split at h
  · next a b c d tail =>
    split at h
    · next ha hb hc hd =>
      cases h
      refine ⟨[a, b, c, d], rfl, fun more => ?_⟩
      simp only [List.cons_append, List.nil_append, hexQuad, ha, hb, hc, hd]
    · cases h
  · cases h

theorem delimited_lowHalf {high : Nat} {c : Char} (h : lowHalf high bs = .ok (c, rest)) :
    Delimited (lowHalf high) bs rest fun more => .ok (c, more) := by
  obtain ⟨low, tail, rfl, hq, hlow, rfl⟩ : ∃ low tail, bs = 92 :: 117 :: tail ∧
      hexQuad tail = .ok (low, rest) ∧ (0xDC00 ≤ low ∧ low < 0xE000) ∧ joinPair high low = c := by
    unfold lowHalf at h
    grind
  obtain ⟨taken, rfl, ht⟩ := delimited_hexQuad hq
  refine ⟨92 :: 117 :: taken, rfl, fun more => ?_⟩
  simp only [List.cons_append, lowHalf, ne_eq, not_true_eq_false, if_false, ht, hlow, and_self,
    if_true]

theorem delimited_hexEscape {c : Char} (h : hexEscape bs = .ok (c, rest)) :
    Delimited hexEscape bs rest fun more => .ok (c, more) := by
  unfold hexEscape at h
  split at h
  · cases h
  · next n tail hq =>
    obtain ⟨taken, rfl, ht⟩ := delimited_hexQuad hq
    split at h
    · cases h
    · next hlow =>
      split at h
      · next hhigh =>
        obtain ⟨taken', rfl, ht'⟩ := delimited_lowHalf h
        refine ⟨taken ++ taken', by simp, fun more => ?_⟩
        simp only [List.append_assoc, hexEscape, ht, hlow, hhigh, and_self, if_true, if_false, ht']
      · next hhigh =>
        cases h
        refine ⟨taken, rfl, fun more => ?_⟩
        simp only [hexEscape, ht, hlow, hhigh, if_false]

theorem delimited_escape {c : Char} (h : escape bs = .ok (c, rest)) :
    Delimited escape bs rest fun more => .ok (c, more) := by
  unfold escape at h
  split at h
  · cases h
  · next b tail =>
    split at h
    · next hb =>
      obtain ⟨taken, rfl, ht⟩ := delimited_hexEscape h
      refine ⟨b :: taken, rfl, fun more => ?_⟩
      simp only [List.cons_append, escape, hb, if_true, ht]
    · next hb =>
      split at h
      · next hs =>
        cases h
        refine ⟨[b], rfl, fun more => ?_⟩
        simp only [List.cons_append, List.nil_append, escape, hb, if_false, hs]
      · cases h

theorem delimited_skipEscape (h : skipEscape bs = .ok rest) : Delimited skipEscape bs rest .ok := by
  unfold skipEscape at h
  split at h
  · cases h
  · next b tail =>
    split at h
    · next hb =>
      obtain ⟨⟨n, rest⟩, hq, rfl⟩ := ok_of_map h
      obtain ⟨taken, rfl, ht⟩ := delimited_hexQuad hq
      refine ⟨b :: taken, rfl, fun more => ?_⟩
      simp only [List.cons_append, skipEscape, hb, if_true, ht, Except.map]
    · next hb =>
      split at h
      · next hs =>
        cases h
        refine ⟨[b], rfl, fun more => ?_⟩
        simp only [List.cons_append, List.nil_append, skipEscape, hb, if_false, hs, if_true]
      · cases h

theorem delimited_next {c : Char} (h : Utf8.next bs = some (c, rest)) :
    Delimited Utf8.next bs rest fun more => some (c, more) := by
  unfold Utf8.next at h
  split at h
  · cases h
  · next a tail =>
    dsimp only at h
    split at h
    · next hw =>
      cases h
      exact ⟨[a], rfl, fun more => by simp only [List.singleton_append, Utf8.next, hw]⟩
    · next b tail hw =>
      split at h
      · next hb =>
        obtain ⟨rfl, rfl⟩ := Prod.mk.inj (Option.some.inj h)
        refine ⟨[a, b], rfl, fun more => ?_⟩
        simp only [List.cons_append, List.nil_append, Utf8.next, hw, hb, if_true]
      · cases h
    · next b c tail hw =>
      split at h
      · next hb =>
        obtain ⟨rfl, rfl⟩ := Prod.mk.inj (Option.some.inj h)
        refine ⟨[a, b, c], rfl, fun more => ?_⟩
        simp only [List.cons_append, List.nil_append, Utf8.next, hw, hb, if_true]
      · cases h
    · next b c d tail hw =>
      split at h
      · next hb =>
        obtain ⟨rfl, rfl⟩ := Prod.mk.inj (Option.some.inj h)
        refine ⟨[a, b, c, d], rfl, fun more => ?_⟩
        simp only [List.cons_append, List.nil_append, Utf8.next, hw, hb, if_true]
      · cases h
    · cases h

/-- A text of characters alone ends at its closing quote. A byte that is no character could be one
with other bytes behind it. -/
theorem delimited_scanText {s : Scanned} (h : scanText bs = .ok s) (hs : s.flaw = none) :
    Delimited scanText bs s.rest fun more => .ok { s with rest := more } := by
  fun_induction scanText bs generalizing s with
  | case1 | case3 | case4 | case6 | case7 | case9 => cases h
  | case2 =>
    cases h
    refine ⟨[34], rfl, fun more => ?_⟩
    rw [List.singleton_append, scanText]
    rfl
  | case5 tail c rest he _ s' hr _ ih =>
    cases h
    obtain ⟨taken, rfl, ht⟩ := delimited_escape he
    obtain ⟨taken', hrest, ht'⟩ := ih hr hs
    refine ⟨92 :: (taken ++ taken'), by simp [hrest], fun more => ?_⟩
    rw [List.cons_append, List.append_assoc, scanText_of_escape (ht _), ht']
    rfl
  | case8 b tail h34 h92 h32 c rest hn _ s' hr ih =>
    cases h
    obtain ⟨_, hbs, ht⟩ := delimited_next hn
    obtain ⟨taken, rfl, rfl⟩ := exists_tail hbs (Utf8.length_of_next hn)
    obtain ⟨taken', hrest, ht'⟩ := ih hr hs
    refine ⟨b :: (taken ++ taken'), by simp [hrest], fun more => ?_⟩
    have hn' := ht (taken' ++ more)
    rw [List.cons_append] at hn'
    rw [List.cons_append, List.append_assoc, scanText_of_next h34 h92 h32 hn', ht']
    rfl
  | case10 =>
    cases h
    cases hs

theorem delimited_readText {s : String} (h : readText bs = .ok (s, rest)) :
    Delimited readText bs rest fun more => .ok (s, more) := by
  unfold readText at h
  split at h
  · cases h
  · next hs =>
    split at h
    · cases h
    · next hf =>
      cases h
      obtain ⟨taken, hbs, ht⟩ := delimited_scanText hs hf
      exact ⟨taken, hbs, fun more => by simp only [readText, ht, hf]⟩

theorem delimited_skipText (h : skipText bs = .ok rest) : Delimited skipText bs rest .ok := by
  fun_induction skipText bs with
  | case1 | case3 | case5 => cases h
  | case2 =>
    cases h
    refine ⟨[34], rfl, fun more => ?_⟩
    rw [List.singleton_append, skipText]
    rfl
  | case4 tail rest' he _ _ ih =>
    obtain ⟨taken, rfl, ht⟩ := delimited_skipEscape he
    obtain ⟨taken', rfl, ht'⟩ := ih h
    refine ⟨92 :: (taken ++ taken'), by simp, fun more => ?_⟩
    rw [List.cons_append, List.append_assoc, skipText_of_escape (ht _), ht']
  | case6 b tail h34 h92 h32 ih =>
    obtain ⟨taken, rfl, ht⟩ := ih h
    refine ⟨b :: taken, rfl, fun more => ?_⟩
    rw [List.cons_append, skipText]
    simp only [h34, h92, h32, if_false, ht]

theorem delimited_skipKey (h : skipKey bs = .ok rest) : Delimited skipKey bs rest .ok := by
  obtain ⟨inner, after, hs, ht, hc⟩ : ∃ inner after, skipBlank bs = 34 :: inner ∧
      skipText inner = .ok after ∧ skipBlank after = 58 :: rest := by
    unfold skipKey at h
    grind
  obtain ⟨front, rfl, hfront⟩ := delimited_skipBlank hs
  obtain ⟨text, rfl, htext⟩ := delimited_skipText ht
  obtain ⟨colon, rfl, hcolon⟩ := delimited_skipBlank hc
  refine ⟨front ++ (text ++ colon), by simp, fun more => ?_⟩
  simp only [List.append_assoc, skipKey, hfront, htext, hcolon, if_true]

end text

section number

variable {atEnd : Cause} {bs rest : Bytes}

namespace Literal

theorem peeks_digits {d : UInt8} (hd : isDigit d = true) (bs : Bytes) :
    Peeks (fun bs => digits (d :: bs)) bs (digits (d :: bs)).2
      fun more => ((digits (d :: bs)).1, more) := by
  have hrest : (digits (d :: bs)).2 = bs.dropWhile isDigit := List.dropWhile_cons_of_pos hd
  refine ⟨bs.takeWhile isDigit, by rw [hrest, List.takeWhile_append_dropWhile], fun more hm => ?_⟩
  have hall : ∀ b ∈ d :: bs.takeWhile isDigit, isDigit b = true :=
    List.forall_mem_cons.mpr ⟨hd, List.all_eq_true.mp List.all_takeWhile⟩
  have hmore : NoDigit more := by
    rintro b tail rfl
    have := List.head?_dropWhile_not isDigit bs
    rw [← hrest, ← hm] at this
    simpa using this
  have htaken : d :: bs.takeWhile isDigit = (d :: bs).takeWhile isDigit :=
    (List.takeWhile_cons_of_pos hd).symm
  rw [htaken] at hall
  show digits (d :: bs.takeWhile isDigit ++ more) = _
  rw [htaken, digits_append hall hmore, digits]

theorem peeks_wholePart {ds : List Nat} (h : wholePart atEnd bs = .ok (ds, rest)) :
    Peeks (wholePart atEnd) bs rest fun more => .ok (ds, more) := by
  cases bs with
  | nil => cases h
  | cons b tail =>
    by_cases h0 : b = 48
    · subst h0
      obtain ⟨rfl, rfl, hn⟩ : [0] = ds ∧ tail = rest ∧ NoDigit tail := by
        simp only [wholePart, if_true] at h
        cases tail with
        | nil =>
          cases h
          exact ⟨rfl, rfl, fun _ _ hb => by cases hb⟩
        | cons d tail =>
          simp only at h
          split at h
          · cases h
          · next hd =>
            cases h
            refine ⟨rfl, rfl, fun b bs hb => ?_⟩
            obtain ⟨rfl, -⟩ := List.cons.inj hb
            exact Bool.eq_false_iff.mpr hd
      refine ⟨[48], rfl, fun more hm => ?_⟩
      have hmore : NoDigit more := by
        rintro c cs rfl
        obtain ⟨tail, rfl⟩ := List.head?_eq_some_iff.mp hm.symm
        exact hn c tail rfl
      exact wholePart_of_writes (.inl rfl) (.intro (by decide) (by decide)) hmore
    · simp only [wholePart, h0, if_false] at h
      split at h
      · next hb =>
        have hdigits := peeks_digits hb tail
        rw [Except.ok.inj h] at hdigits
        obtain ⟨taken, rfl, ht⟩ := hdigits
        refine ⟨b :: taken, rfl, fun more hm => ?_⟩
        simp only [List.cons_append, wholePart, h0, hb, if_true, if_false, ht more hm]
      · cases h

theorem peeks_fractionPart {x : Option (List Nat)} (h : fractionPart atEnd bs = .ok (x, rest)) :
    Peeks (fractionPart atEnd) bs rest fun more => .ok (x, more) := by
  unfold fractionPart at h
  split at h
  · cases h
    refine .nothing fun more hm => ?_
    obtain rfl := List.head?_eq_none_iff.mp hm
    rfl
  · next b tail =>
    split at h
    · next hb =>
      split at h
      · cases h
      · next d digits =>
        split at h
        · next hd =>
          cases h
          obtain ⟨taken, htail, ht⟩ := peeks_digits hd digits
          refine ⟨b :: d :: taken, by rw [List.cons_append, List.cons_append, ← htail], ?_⟩
          intro more hm
          simp only [List.cons_append, fractionPart, hb, hd, if_true, ht more hm]
        · cases h
    · next hb =>
      cases h
      refine .nothing fun more hm => ?_
      obtain ⟨more, rfl⟩ := List.head?_eq_some_iff.mp hm
      simp only [fractionPart, hb, if_false]

/-- An exponent that has been read has a sign, or none, and at least one digit. -/
theorem exists_sign {b : UInt8} {x : Option (Bool × List Nat)} (hb : b = 101 ∨ b = 69)
    (h : exponentPart atEnd (b :: bs) = .ok (x, rest)) :
    ∃ sign minus d tail, IsSign sign minus ∧ isDigit d = true ∧ bs = sign ++ d :: tail ∧
      x = some (minus, (digits (d :: tail)).1) ∧ rest = (digits (d :: tail)).2 := by
  simp only [exponentPart, hb, if_true] at h
  have of_digit {sign tail : Bytes} {minus : Bool} {d : UInt8} (hs : IsSign sign minus)
      (hx : (if isDigit d then .ok (some (minus, (digits (d :: tail)).1), (digits (d :: tail)).2)
        else .error (.before .invalidNumber tail) : Except Fault _) = .ok (x, rest)) :
      ∃ sign' minus' d' tail', IsSign sign' minus' ∧ isDigit d' = true ∧
        sign ++ d :: tail = sign' ++ d' :: tail' ∧ x = some (minus', (digits (d' :: tail')).1) ∧
        rest = (digits (d' :: tail')).2 := by
    split at hx
    · next hd =>
      cases hx
      exact ⟨sign, minus, d, tail, hs, hd, rfl, rfl, rfl⟩
    · cases hx
  cases bs with
  | nil => cases h
  | cons s tail =>
    simp only at h
    by_cases h45 : s = 45
    · simp only [h45, if_true] at h
      cases tail with
      | nil => cases h
      | cons d tail => rw [h45]; exact of_digit (.inr (.inr ⟨rfl, rfl⟩)) h
    by_cases h43 : s = 43
    · simp only [h43, show (43 : UInt8) ≠ 45 by decide, if_true, if_false] at h
      cases tail with
      | nil => cases h
      | cons d tail => rw [h43]; exact of_digit (.inr (.inl ⟨rfl, rfl⟩)) h
    · simp only [h45, h43, if_false] at h
      exact of_digit (.inl ⟨rfl, rfl⟩) h

theorem peeks_exponentPart {x : Option (Bool × List Nat)}
    (h : exponentPart atEnd bs = .ok (x, rest)) :
    Peeks (exponentPart atEnd) bs rest fun more => .ok (x, more) := by
  cases bs with
  | nil =>
    cases h
    refine .nothing fun more hm => ?_
    obtain rfl := List.head?_eq_none_iff.mp hm
    rfl
  | cons b tail =>
    by_cases hb : b = 101 ∨ b = 69
    · obtain ⟨sign, minus, d, tail, hs, hd, rfl, rfl, rfl⟩ := exists_sign hb h
      obtain ⟨taken, htail, ht⟩ := peeks_digits hd tail
      refine ⟨b :: (sign ++ d :: taken), by simp [← htail], fun more hm => ?_⟩
      simp only [List.cons_append, List.append_assoc, exponentPart_of_sign hb hs hd, ht more hm]
    · simp only [exponentPart, hb, if_false] at h
      cases h
      refine .nothing fun more hm => ?_
      obtain ⟨more, rfl⟩ := List.head?_eq_some_iff.mp hm
      simp only [exponentPart, hb, if_false]

theorem peeks_read {l : Literal} (h : read atEnd bs = .ok (l, rest)) :
    Peeks (read atEnd) bs rest fun more => .ok (l, more) := by
  unfold read at h
  split at h
  · cases h
  · next hw =>
    split at h
    · cases h
    · next hf =>
      split at h
      · cases h
      · next he =>
        cases h
        obtain ⟨whole, rfl, hwhole⟩ := peeks_wholePart hw
        obtain ⟨fraction, rfl, hfraction⟩ := peeks_fractionPart hf
        obtain ⟨exponent, rfl, hexponent⟩ := peeks_exponentPart he
        refine ⟨whole ++ (fraction ++ exponent), by simp, fun more hm => ?_⟩
        have hm' := head?_append_congr hm exponent
        rw [List.append_assoc, List.append_assoc, read, hwhole _ (head?_append_congr hm' fraction)]
        simp only [hfraction _ hm', hexponent _ hm]

end Literal

/-- A number is read behind its minus sign, if it has one. -/
theorem peeks_behind_sign {b : UInt8} {l : Literal}
    (h : Literal.read atEnd (if b = 45 then bs else b :: bs) = .ok (l, rest)) :
    Peeks (fun bs => Literal.read atEnd (if b = 45 then bs else b :: bs)) bs rest
      fun more => .ok (l, more) := by
  by_cases hb : b = 45
  · simp only [hb, if_true] at h ⊢
    exact Literal.peeks_read h
  · simp only [hb, if_false] at h ⊢
    exact (Literal.peeks_read h).tail (Literal.length_of_read h)

theorem peeks_readNumber {n : Number} (h : readNumber bs = .ok (n, rest)) :
    Peeks readNumber bs rest fun more => .ok (n, more) := by
  cases bs with
  | nil => cases h
  | cons b tail =>
    simp only [readNumber, beq_iff_eq] at h
    split at h
    · cases h
    · next l after hl =>
      split at h
      · next hn =>
        cases h
        obtain ⟨taken, rfl, ht⟩ := peeks_behind_sign hl
        refine ⟨b :: taken, rfl, fun more hm => ?_⟩
        have ht := ht more hm
        simp only at ht
        simp only [List.cons_append, readNumber, beq_iff_eq, ht, hn]
      · cases h

theorem peeks_skipNumber (h : skipNumber bs = .ok rest) : Peeks skipNumber bs rest .ok := by
  cases bs with
  | nil => cases h
  | cons b tail =>
    obtain ⟨⟨l, after⟩, hl, rfl⟩ := ok_of_map h
    obtain ⟨taken, rfl, ht⟩ := peeks_behind_sign hl
    refine ⟨b :: taken, rfl, fun more hm => ?_⟩
    have ht := ht more hm
    simp only at ht
    simp only [List.cons_append, skipNumber, ht, Except.map]

end number

section skip

variable {bs rest : Bytes}

theorem peeks_skipScalar (h : skipScalar bs = .ok rest) : Peeks skipScalar bs rest .ok := by
  cases bs with
  | nil => cases h
  | cons b tail =>
    by_cases h110 : b = 110
    · subst h110
      have hword : word [117, 108, 108] tail = .ok rest := h
      exact (delimited_word hword).peeks.behind_byte fun _ => rfl
    by_cases h116 : b = 116
    · subst h116
      have hword : word [114, 117, 101] tail = .ok rest := h
      exact (delimited_word hword).peeks.behind_byte fun _ => rfl
    by_cases h102 : b = 102
    · subst h102
      have hword : word [97, 108, 115, 101] tail = .ok rest := h
      exact (delimited_word hword).peeks.behind_byte fun _ => rfl
    by_cases hn : b = 45 ∨ isDigit b
    · have skip_eq (bs : Bytes) : skipScalar (b :: bs) = skipNumber (b :: bs) := by
        simp only [skipScalar, h110, h116, h102, hn, if_true, if_false]
      rw [skip_eq] at h
      exact ((peeks_skipNumber h).tail (length_of_skipNumber h)).behind_byte skip_eq
    by_cases h34 : b = 34
    · subst h34
      exact (delimited_skipText h).peeks.behind_byte fun _ => rfl
    · simp only [skipScalar, h110, h116, h102, hn, h34, if_false, reduceCtorEq] at h

theorem peeks_skipOpen {value : Bool} {opened : List Container}
    (h : skipOpen value opened bs = .ok rest) : Peeks (skipOpen value opened) bs rest .ok := by
  -- only a scalar looks at the byte behind it, and that one is what the rest begins with
  fun_induction skipOpen value opened bs with
  | case2 | case5 | case6 | case7 | case10 | case11 | case12 | case15 | case17 | case19 => cases h
  | case1 bs =>
    cases h
    exact .nothing fun more _ => by rw [skipOpen]
  | case3 bs outer inner hs _ ih =>
    obtain ⟨front, rfl, hfront⟩ := delimited_skipBlank hs
    exact (ih h).behind fun more => skipOpen_list_next (hfront more)
  | case4 bs outer inner hs _ _ ih =>
    obtain ⟨front, rfl, hfront⟩ := delimited_skipBlank hs
    exact (ih h).behind fun more => skipOpen_list_end (hfront more)
  | case8 bs outer inner after hk _ hs _ ih =>
    obtain ⟨front, rfl, hfront⟩ := delimited_skipBlank hs
    obtain ⟨key, rfl, hkey⟩ := delimited_skipKey hk
    rw [← List.append_assoc]
    refine (ih h).behind fun more => ?_
    rw [List.append_assoc]
    exact skipOpen_object_next (hfront _) (hkey more)
  | case9 bs outer inner hs _ _ ih =>
    obtain ⟨front, rfl, hfront⟩ := delimited_skipBlank hs
    exact (ih h).behind fun more => skipOpen_object_end (hfront more)
  | case13 bs opened inner after hs _ hi _ ih =>
    obtain ⟨front, rfl, hfront⟩ := delimited_skipBlank hs
    obtain ⟨close, rfl, hclose⟩ := delimited_skipBlank hi
    rw [← List.append_assoc]
    refine (ih h).behind fun more => ?_
    rw [List.append_assoc]
    exact skipOpen_list_nil (hfront _) (hclose more)
  | case14 bs opened inner b tail hi _ h93 hs _ ih =>
    obtain ⟨front, rfl, hfront⟩ := delimited_skipBlank hs
    obtain ⟨next, rfl, hnext⟩ := delimited_skipBlank hi
    rw [← List.append_assoc]
    refine ((ih h).tail ((length_of_skipOpen h).2 rfl)).behind fun more => ?_
    rw [List.append_assoc]
    exact skipOpen_list (hfront _) (hnext more) h93
  | case16 bs opened inner after hs _ _ hi _ ih =>
    obtain ⟨front, rfl, hfront⟩ := delimited_skipBlank hs
    obtain ⟨close, rfl, hclose⟩ := delimited_skipBlank hi
    rw [← List.append_assoc]
    refine (ih h).behind fun more => ?_
    rw [List.append_assoc]
    exact skipOpen_object_nil (hfront _) (hclose more)
  | case18 bs opened inner b tail hi _ h125 after hk _ hs _ _ ih =>
    obtain ⟨front, rfl, hfront⟩ := delimited_skipBlank hs
    obtain ⟨next, rfl, hnext⟩ := delimited_skipBlank hi
    obtain ⟨_, hbs, ht⟩ := delimited_skipKey hk
    obtain ⟨key, rfl, rfl⟩ := exists_tail hbs (length_of_skipKey hk)
    rw [← List.append_assoc, ← List.append_assoc]
    refine (ih h).behind fun more => ?_
    rw [List.append_assoc, List.append_assoc]
    exact skipOpen_object (hfront _) (hnext _) h125 (ht more)
  | case20 bs opened b tail hs _ h91 h123 after hk _ ih =>
    obtain ⟨front, rfl, hfront⟩ := delimited_skipBlank hs
    obtain ⟨taken, rfl, ht⟩ := ih h
    obtain ⟨scalar, rfl, hscalar⟩ := (peeks_skipScalar hk).tail (length_of_skipScalar hk)
    refine ⟨front ++ (scalar ++ taken), by simp, fun more hm => ?_⟩
    rw [List.append_assoc, List.append_assoc]
    rw [← ht more hm]
    exact skipOpen_scalar (hfront _) h91 h123 (hscalar _ (head?_append_congr hm taken))

end skip

end PortShare.Json
