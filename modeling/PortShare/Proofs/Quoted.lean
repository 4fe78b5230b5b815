import PortShare.Proofs.Numeral
import PortShare.Text.Quoted

/-! Texts in quotes. Nothing in one is hidden, and it can be read back, whatever stands behind the
closing quote. -/

namespace PortShare

/-- The controls are the characters in front of the space, and those from the last one of ASCII up
to the space that does not break. -/
def IsControl (c : Char) : Prop := c.toNat < 0x20 ∨ 0x7F ≤ c.toNat ∧ c.toNat < 0xA0

namespace Category

/-- Of the first characters the controls are hidden, and one space. -/
theorem isHidden_iff_of_le {c : Char} (h : c.toNat ≤ 0xA0) :
    isHidden c = true ↔ c.toNat < 0x20 ∨ 0x7F ≤ c.toNat := by
  have hruns : hiddenRanges.toList = (0x0, 0x1F) :: (0x7F, 0xA0) :: hiddenRanges.toList.drop 2 :=
    rfl
  rw [isHidden, inRanges, ← Array.find?_toList, hruns, List.find?_cons, List.find?_cons]
  by_cases hlow : c.toNat ≤ 0x1F
  · simp only [hlow, decide_true, Nat.zero_le, true_iff]
    omega
  · simp only [hlow, decide_false, h, decide_true, decide_eq_true_eq]
    omega

theorem isHidden_of_isControl {c : Char} (h : IsControl c) : isHidden c = true := by
  unfold IsControl at h
  rw [isHidden_iff_of_le (by omega)]
  omega

/-- Is the character one of ASCII, and no control? -/
def isPrintable (c : Char) : Bool := 0x20 ≤ c.toNat && c.toNat < 0x7F

theorem isHidden_of_isPrintable {c : Char} (h : isPrintable c = true) : isHidden c = false := by
  simp only [isPrintable, Bool.and_eq_true, decide_eq_true_eq] at h
  rw [Bool.eq_false_iff, ne_eq, isHidden_iff_of_le (by omega)]
  omega

end Category

open Category (isHidden isPrintable)

/-- Nothing in the text is hidden. -/
def IsShown (cs : List Char) : Prop := ∀ c ∈ cs, isHidden c = false

theorem IsShown.not_isControl {cs : List Char} (h : IsShown cs) {c : Char} (hc : c ∈ cs) :
    ¬ IsControl c := by
  intro hcontrol
  have := h c hc
  rw [Category.isHidden_of_isControl hcontrol] at this
  cases this

theorem IsShown.append {cs ds : List Char} (hc : IsShown cs) (hd : IsShown ds) :
    IsShown (cs ++ ds) := by
  intro c h
  rcases List.mem_append.mp h with h | h
  · exact hc c h
  · exact hd c h

theorem isShown_of_isPrintable {cs : List Char} (h : cs.all isPrintable = true) : IsShown cs :=
  fun c hc => Category.isHidden_of_isPrintable (List.all_eq_true.mp h c hc)

theorem isShown_digits {base : Nat} (hb : 1 < base) (hb' : base ≤ 36) (n : Nat) :
    IsShown (Numeral.digits base n) := by
  have all : ∀ d : Fin 36, isPrintable (Numeral.digit d) = true := by decide
  intro c hc
  obtain ⟨d, hd, rfl⟩ := Numeral.exists_digit_of_mem hb hc
  exact Category.isHidden_of_isPrintable (all ⟨d, Nat.lt_of_lt_of_le hd hb'⟩)

namespace Quoted

/-- The signs that stand behind a backslash for one character each. -/
def shortEscapes : List (Char × Char) :=
  [('"', '"'), ('\\', '\\'), ('t', '\t'), ('n', '\n'), ('r', '\r'), ('0', '\x00')]

/-- A character is written by a sign, by its number, or as it is. -/
theorem escapeChar_cases (c : Char) :
    (∃ sign, (sign, c) ∈ shortEscapes ∧ escapeChar c = ['\\', sign]) ∨
    escapeChar c = '\\' :: 'u' :: '\x7b' :: (Numeral.digits 16 c.toNat ++ ['\x7d']) ∨
    (c ≠ '"' ∧ c ≠ '\\' ∧ isHidden c = false ∧ escapeChar c = [c]) := by
  unfold escapeChar
  split
  · exact .inl ⟨'"', by decide, rfl⟩
  · exact .inl ⟨'\\', by decide, rfl⟩
  · exact .inl ⟨'t', by decide, rfl⟩
  · exact .inl ⟨'n', by decide, rfl⟩
  · exact .inl ⟨'r', by decide, rfl⟩
  · exact .inl ⟨'0', by decide, rfl⟩
  next hquote hslash _ _ _ _ =>
    split
    next => exact .inr (.inl rfl)
    next hshown => exact .inr (.inr ⟨hquote, hslash, Bool.eq_false_iff.mpr hshown, rfl⟩)

theorem isShown_escapeChar (c : Char) : IsShown (escapeChar c) := by
  rcases escapeChar_cases c with ⟨sign, hsign, h⟩ | h | ⟨-, -, hshown, h⟩ <;> rw [h]
  · have all : shortEscapes.all (fun p => ['\\', p.1].all isPrintable) = true := by decide
    exact isShown_of_isPrintable (List.all_eq_true.mp all _ hsign)
  · have hfront : IsShown ['\\', 'u', '\x7b'] := isShown_of_isPrintable (by decide)
    have hend : IsShown ['\x7d'] := isShown_of_isPrintable (by decide)
    exact hfront.append ((isShown_digits (by decide) (by decide) _).append hend)
  · intro d hd
    obtain rfl := List.mem_singleton.mp hd
    exact hshown

theorem isShown_chars (cs : List Char) : IsShown (chars cs) := by
  have hquote : IsShown ['"'] := isShown_of_isPrintable (by decide)
  have hescape : IsShown (escape cs) := by
    intro d hd
    obtain ⟨c, -, hc⟩ := List.mem_flatMap.mp hd
    exact isShown_escapeChar c d hc
  exact hquote.append (hescape.append hquote)

/-- The character that is meant behind a backslash, and the text behind it. -/
def readEscape? : List Char → Option (Char × List Char)
  | 'u' :: '\x7b' :: cs =>
    some (Char.ofNat (Numeral.value 16 (cs.takeWhile (· != '\x7d'))),
      (cs.dropWhile (· != '\x7d')).drop 1)
  | sign :: cs => (shortEscapes.lookup sign).map fun c => (c, cs)
  | [] => none

/-- The first character of a quoted text behind its opening quote; there is none in front of the
closing one. -/
def readChar? : List Char → Option (Char × List Char)
  | [] | '"' :: _ => none
  | '\\' :: cs => readEscape? cs
  | c :: cs => some (c, cs)

theorem readEscape?_number (c : Char) (rest : List Char) :
    readEscape? ('u' :: '\x7b' :: (Numeral.digits 16 c.toNat ++ '\x7d' :: rest)) =
      some (c, rest) := by
  have hend : ∀ d ∈ Numeral.digits 16 c.toNat, (d != '\x7d') = true := by
    have all : ∀ d : Fin 16, (Numeral.digit d != '\x7d') = true := by decide
    intro d hd
    obtain ⟨n, hn, rfl⟩ := Numeral.exists_digit_of_mem (by decide) hd
    exact all ⟨n, hn⟩
  have hvalue : Numeral.value 16 (Numeral.digits 16 c.toNat) = c.toNat :=
    Numeral.value_digits (by decide) (by decide) _
  rw [readEscape?, List.takeWhile_append_of_pos hend, List.dropWhile_append_of_pos hend]
  simp [hvalue]

theorem readChar?_escapeChar (c : Char) (rest : List Char) :
    readChar? (escapeChar c ++ rest) = some (c, rest) := by
  rcases escapeChar_cases c with ⟨sign, hsign, h⟩ | h | ⟨hquote, hslash, -, h⟩ <;> rw [h]
  · simp only [shortEscapes, List.mem_cons, Prod.mk.injEq, List.not_mem_nil, or_false] at hsign
    rcases hsign with ⟨rfl, rfl⟩ | ⟨rfl, rfl⟩ | ⟨rfl, rfl⟩ | ⟨rfl, rfl⟩ | ⟨rfl, rfl⟩ | ⟨rfl, rfl⟩ <;>
      rfl
  · simp only [List.cons_append, List.append_assoc, List.nil_append]
    exact readEscape?_number c rest
  · rw [List.singleton_append, readChar?]
    · exact hquote
    · exact hslash

/-- A text ends at its closing quote: two that are written alike, with anything behind them, are the
same text with the same behind it. -/
theorem escape_append_inj {cs ds behind behind' : List Char}
    (h : escape cs ++ '"' :: behind = escape ds ++ '"' :: behind') : cs = ds ∧ behind = behind' := by
  have escape_cons (c : Char) (cs rest : List Char) :
      escape (c :: cs) ++ rest = escapeChar c ++ (escape cs ++ rest) := by
    rw [escape, List.flatMap_cons, List.append_assoc, ← escape]
  induction cs generalizing ds with
  | nil =>
    cases ds with
    | nil => exact ⟨rfl, (List.cons.inj h).2⟩
    | cons d ds =>
      have hread := congrArg readChar? h
      rw [escape_cons, readChar?_escapeChar] at hread
      cases hread
  | cons c cs ih =>
    have hread := congrArg readChar? h
    rw [escape_cons, readChar?_escapeChar] at hread
    cases ds with
    | nil => cases hread
    | cons d ds =>
      rw [escape_cons, readChar?_escapeChar] at hread
      obtain ⟨rfl, hrest⟩ := Prod.mk.inj (Option.some.inj hread)
      obtain ⟨rfl, hbehind⟩ := ih hrest
      exact ⟨rfl, hbehind⟩

end Quoted

theorem toList_quote (s : String) : (quote s).toList = Quoted.chars s.toList :=
  String.toList_ofList

theorem isShown_quote (s : String) : IsShown (quote s).toList := by
  rw [toList_quote]
  exact Quoted.isShown_chars s.toList

end PortShare
