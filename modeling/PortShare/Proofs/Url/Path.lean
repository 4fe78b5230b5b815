import Mathlib.Data.List.TakeWhile
import PortShare.Proofs.Url.Percent
import PortShare.Url.Path

/-! Segments of paths. A text that is added to a path is one segment more, behind a slash and
encoded, unless it is a directory or has characters in it that vanish. -/

namespace PortShare.Url.Path

/-- A text that can be a segment: the name of no directory, and without tabs and ends of line. -/
structure IsSegment (cs : List Char) : Prop where
  notHere : cs ≠ ['.']
  notAbove : cs ≠ ['.', '.']
  whole : ∀ c ∈ cs, c ≠ '\t' ∧ c ≠ '\n' ∧ c ≠ '\r'

/-- What does not vanish of a text. -/
def kept (cs : List Char) : List Char := cs.filter fun c => c != '\t' && c != '\n' && c != '\r'

theorem kept_eq_self_iff {cs : List Char} :
    kept cs = cs ↔ ∀ c ∈ cs, c ≠ '\t' ∧ c ≠ '\n' ∧ c ≠ '\r' := by
  simp only [kept, List.filter_eq_self, Bool.and_eq_true, bne_iff_ne, ne_eq, and_assoc]

theorem extend_eq (path cs : List Char) : extend path cs =
    if cs = ['.'] ∨ cs = ['.', '.'] then path
    else add (if path.length = 1 then path else path ++ ['/'])
      (percentEncode segmentReserved (kept cs)) false := rfl

theorem percent_mem : '%' ∈ segmentReserved := by decide

theorem slash_not_mem_percentEncode (cs : List Char) : '/' ∉ percentEncode segmentReserved cs :=
  not_mem_percentEncode (by decide) (by decide) (by decide) cs

/-- An encoded text is one of some names only if it is what all of these names say. -/
theorem percentEncode_mem {names : List String} {ds : List Char}
    (hn : ∀ s ∈ names, percentDecode s.toList = Utf8.encode ds) {cs : List Char}
    (h : (names.any fun s => s.toList == percentEncode segmentReserved cs) = true) : cs = ds := by
  obtain ⟨s, hs, he⟩ := List.any_eq_true.mp h
  have hd := percentDecode_percentEncode percent_mem cs []
  rw [List.append_nil, ← beq_iff_eq.mp he, hn s hs] at hd
  exact (Utf8.encode_inj.mp (by simpa [percentDecode] using hd)).symm

theorem isDot_percentEncode {cs : List Char} :
    isDot (percentEncode segmentReserved cs) = true ↔ cs = ['.'] := by
  refine ⟨fun h => percentEncode_mem (by decide) h, ?_⟩
  rintro rfl
  rfl

theorem isDoubleDot_percentEncode {cs : List Char} :
    isDoubleDot (percentEncode segmentReserved cs) = true ↔ cs = ['.', '.'] := by
  refine ⟨fun h => percentEncode_mem (by decide) h, ?_⟩
  rintro rfl
  rfl

theorem upToSlash_append (front : List Char) {segment : List Char} (h : '/' ∉ segment) :
    upToSlash (front ++ '/' :: segment) = front ++ ['/'] := by
  have hs : ∀ c ∈ segment.reverse, (c != '/') = true := by
    intro c hc
    rw [bne_iff_ne]
    rintro rfl
    exact h (List.mem_reverse.mp hc)
  rw [upToSlash, List.reverse_append, List.reverse_cons, List.append_assoc,
    List.dropWhile_append_of_pos hs]
  simp

/-- A slash behind a segment that is not the name of a drive can go. -/
theorem dropSlash_append (front : List Char) {segment : List Char} (h : '/' ∉ segment)
    (hd : startsWithDrive segment = false) :
    dropSlash (front ++ '/' :: segment ++ ['/']) = front ++ '/' :: segment := by
  have hs : (front ++ '/' :: segment).drop (front ++ ['/']).length = segment := by
    rw [List.append_cons front '/' segment, List.drop_left]
  have hf : (front ++ ['/']).isEmpty = false := by simp
  simp only [dropSlash, endsWithSlash, List.dropLast_concat, List.getLast?_concat,
    upToSlash_append front h, hs, hd, hf, beq_self_eq_true, Bool.not_false, Bool.and_self, if_true]

theorem extend_of_isSegment {path cs : List Char} (h : IsSegment cs) :
    extend path cs = (if path.length = 1 then path else path ++ ['/']) ++
      percentEncode segmentReserved cs := by
  have hdot : isDot (percentEncode segmentReserved cs) = false :=
    Bool.eq_false_iff.mpr fun he => h.notHere (isDot_percentEncode.mp he)
  have hdouble : isDoubleDot (percentEncode segmentReserved cs) = false :=
    Bool.eq_false_iff.mpr fun he => h.notAbove (isDoubleDot_percentEncode.mp he)
  simp only [extend_eq, h.notHere, h.notAbove, or_self, if_false, kept_eq_self_iff.mpr h.whole, add,
    hdot, hdouble, Bool.false_eq_true, List.append_nil]

/-- What becomes of a path of more than its first slash when any text is added to it. -/
theorem extend_append (front : List Char) {segment : List Char} (hs : '/' ∉ segment)
    (hd : startsWithDrive segment = false) (hn : segment ≠ []) (cs : List Char) :
    extend (front ++ '/' :: segment) cs =
      if cs = ['.'] ∨ cs = ['.', '.'] then front ++ '/' :: segment
      else if kept cs = ['.', '.'] then front ++ ['/']
      else if kept cs = ['.'] then front ++ '/' :: segment ++ ['/']
      else front ++ '/' :: segment ++ '/' :: percentEncode segmentReserved (kept cs) := by
  have hl : ¬ (front ++ '/' :: segment).length = 1 := by
    have := List.length_pos_iff.mpr hn
    simp only [List.length_append, List.length_cons]
    omega
  have hend : endsWithSlash (front ++ '/' :: segment ++ ['/']) = true := by
    simp only [endsWithSlash, List.getLast?_concat, beq_self_eq_true]
  simp only [extend_eq, hl, if_false, add, isDoubleDot_percentEncode, isDot_percentEncode,
    dropSlash_append front hs hd, upToSlash_append front hs, withSlash, hend, if_true,
    Bool.false_eq_true, List.append_nil]
  split
  · rfl
  · split
    · rfl
    · split
      · rfl
      · rw [List.append_assoc, List.singleton_append]

/-- Such a path is never cut down to a single character other than its first slash. -/
theorem extend_append_eq_slash (front : List Char) {segment : List Char} (hs : '/' ∉ segment)
    (hd : startsWithDrive segment = false) (hn : segment ≠ []) {cs : List Char}
    (h : (extend (front ++ '/' :: segment) cs).length = 1) :
    extend (front ++ '/' :: segment) cs = ['/'] := by
  have hl := List.length_pos_iff.mpr hn
  rw [extend_append front hs hd hn] at h ⊢
  by_cases hdots : cs = ['.'] ∨ cs = ['.', '.']
  · rw [if_pos hdots, List.length_append, List.length_cons] at h
    omega
  · rw [if_neg hdots] at h ⊢
    by_cases hk : kept cs = ['.', '.']
    · rw [if_pos hk] at h ⊢
      obtain rfl : front = [] := by simpa using h
      rfl
    · rw [if_neg hk] at h
      split at h <;> simp only [List.length_append, List.length_cons] at h <;> omega

theorem isSegment_of_alphanum {cs : List Char} (h : ∀ c ∈ cs, c.isAlphanum = true) :
    IsSegment cs where
  notHere := by
    rintro rfl
    exact absurd (h '.' (by simp)) (by decide)
  notAbove := by
    rintro rfl
    exact absurd (h '.' (by simp)) (by decide)
  whole c hc := by
    have hc := h c hc
    refine ⟨?_, ?_, ?_⟩ <;> rintro rfl <;> exact absurd hc (by decide)

/-- A segment of letters and digits ends the path that it is added to. -/
theorem suffix_extend {path cs : List Char} (h : ∀ c ∈ cs, c.isAlphanum = true) :
    cs <:+ extend path cs := by
  rw [extend_of_isSegment (isSegment_of_alphanum h), percentEncode_of_alphanum h]
  exact List.suffix_append _ _

/-- Letters and digits are added as they are, behind a slash if the path is not some other single
character. -/
theorem exists_extend_eq_append {path cs : List Char} (h : ∀ c ∈ cs, c.isAlphanum = true)
    (hp : path.length = 1 → path = ['/']) : ∃ front, extend path cs = front ++ '/' :: cs := by
  rw [extend_of_isSegment (isSegment_of_alphanum h), percentEncode_of_alphanum h]
  split
  · next hl =>
    rw [hp hl]
    exact ⟨[], rfl⟩
  · exact ⟨path, by rw [List.append_assoc, List.singleton_append]⟩

/-- Every text is added to a path as some text is that cannot be a segment. -/
theorem exists_extend_eq (s : String) : ∃ other : String, other ≠ s ∧ ¬ IsSegment other.toList ∧
    ∀ path, extend path other.toList = extend path s.toList := by
  by_cases hdots : s.toList = ['.'] ∨ s.toList = ['.', '.']
  · have skipped {cs : List Char} (hc : cs = ['.'] ∨ cs = ['.', '.']) (path : List Char) :
        extend path cs = path := by rw [extend_eq, if_pos hc]
    obtain ⟨other, hne, hother⟩ : ∃ other : String,
        other ≠ s ∧ (other.toList = ['.'] ∨ other.toList = ['.', '.']) := by
      rcases hdots with hd | hd
      · refine ⟨"..", ?_, .inr rfl⟩
        rintro rfl
        cases hd
      · refine ⟨".", ?_, .inl rfl⟩
        rintro rfl
        cases hd
    refine ⟨other, hne, fun h => ?_, fun path => ?_⟩
    · exact hother.elim h.notHere h.notAbove
    · exact (skipped hother path).trans (skipped hdots path).symm
  · -- a tab at the end vanishes, and no directory ends in one
    have htab : (s ++ "\t").toList = s.toList ++ ['\t'] := String.toList_append
    have hd : ¬ ((s ++ "\t").toList = ['.'] ∨ (s ++ "\t").toList = ['.', '.']) := by
      rw [htab]
      rintro (he | he) <;> have := congrArg List.getLast? he <;> simp at this
    have hk : kept (s ++ "\t").toList = kept s.toList := by
      rw [htab]
      simp [kept]
    refine ⟨s ++ "\t", fun he => ?_, fun h => ?_, fun path => ?_⟩
    · have := congrArg (fun s => s.toList.length) he
      simp at this
    · exact (h.whole '\t' (by simp [htab])).1 rfl
    · rw [extend_eq, extend_eq, if_neg hdots, if_neg hd, hk]

theorem extend_of_isSegment_behind {path cs : List Char} (h : IsSegment cs)
    (hp : 1 < path.length) :
    extend path cs = path ++ '/' :: percentEncode segmentReserved cs := by
  rw [extend_of_isSegment h, if_neg (by omega), List.append_assoc, List.singleton_append]

/-- A text becomes one segment more that stands for it just when it can be a segment. -/
theorem extend_eq_append_iff (front : List Char) {segment : List Char} (hs : '/' ∉ segment)
    (hd : startsWithDrive segment = false) (hn : segment ≠ []) (cs : List Char) :
    (∃ added, extend (front ++ '/' :: segment) cs = front ++ '/' :: segment ++ '/' :: added ∧
      '/' ∉ added ∧ percentDecode added = Utf8.encode cs) ↔ IsSegment cs := by
  constructor
  · rintro ⟨added, he, -, hdec⟩
    rw [extend_append front hs hd hn] at he
    split at he
    · simp at he
    · next hdots =>
      split at he
      · have := congrArg List.length he
        simp only [List.length_append, List.length_cons, List.length_nil] at this
        omega
      · split at he
        · next hk =>
          obtain rfl : added = [] := (List.cons.inj (List.append_cancel_left he)).2.symm
          obtain rfl : cs = [] := Utf8.encode_inj.mp hdec.symm
          cases hk
        · obtain rfl := (List.cons.inj (List.append_cancel_left he)).2
          have hdec' := percentDecode_percentEncode percent_mem (kept cs) []
          rw [List.append_nil, hdec, percentDecode, List.append_nil] at hdec'
          have hk : kept cs = cs := (Utf8.encode_inj.mp hdec').symm
          exact ⟨fun h => hdots (.inl h), fun h => hdots (.inr h), kept_eq_self_iff.mp hk⟩
  · intro h
    have hl : 1 < (front ++ '/' :: segment).length := by
      have := List.length_pos_iff.mpr hn
      simp only [List.length_append, List.length_cons]
      omega
    refine ⟨_, extend_of_isSegment_behind h hl, slash_not_mem_percentEncode cs, ?_⟩
    have hdec := percentDecode_percentEncode percent_mem cs []
    rwa [List.append_nil, percentDecode, List.append_nil] at hdec

section read

variable {path : List Char}

theorem isPrefix_upToSlash (path : List Char) : upToSlash path <+: path := by
  have h := List.dropWhile_suffix (fun c => c != '/') (l := path.reverse)
  rw [← List.reverse_prefix, List.reverse_reverse] at h
  exact h

theorem isPrefix_dropSlash (path : List Char) : dropSlash path <+: path := by
  unfold dropSlash
  dsimp only
  split
  · exact List.dropLast_prefix path
  · exact List.prefix_refl path

/-- What is added to a path are characters of the segment, and slashes. -/
theorem mem_add {segment : List Char} {slash : Bool} {c : Char} (h : c ∈ add path segment slash) :
    c ∈ path ∨ c ∈ segment ∨ c = '/' := by
  have of_withSlash {p : List Char} (hp : p <+: path) (h : c ∈ withSlash p) :
      c ∈ path ∨ c ∈ segment ∨ c = '/' := by
    unfold withSlash at h
    split at h
    · exact .inl (hp.subset h)
    · rcases List.mem_append.mp h with h | h
      · exact .inl (hp.subset h)
      · exact .inr (.inr (List.mem_singleton.mp h))
  have hup : upToSlash (dropSlash path) <+: path :=
    (isPrefix_upToSlash _).trans (isPrefix_dropSlash path)
  unfold add at h
  dsimp only at h
  split at h
  · split at h
    · exact of_withSlash hup h
    · exact .inl (hup.subset h)
  · split at h
    · exact of_withSlash (List.prefix_refl path) h
    · rcases List.mem_append.mp h with h | h
      · rcases List.mem_append.mp h with h | h
        · exact .inl h
        · exact .inr (.inl h)
      · split at h
        · exact .inr (.inr (List.mem_singleton.mp h))
        · cases h

theorem mem_extend {cs : List Char} {c : Char} (h : c ∈ extend path cs) :
    c ∈ path ∨ c ∈ percentEncode segmentReserved (kept cs) ∨ c = '/' := by
  rw [extend_eq] at h
  split at h
  · exact .inl h
  · rcases mem_add h with h | h
    · split at h
      · exact .inl h
      · rcases List.mem_append.mp h with h | h
        · exact .inl h
        · exact .inr (.inr (List.mem_singleton.mp h))
    · exact .inr h

/-- What is kept by each segment that is added is kept by a path that is read. -/
theorem read_induction {P : List Char → Prop} (h : P path)
    (step : ∀ p cs slash, P p → P (add p (percentEncode pathReserved cs) slash)) (both : Bool)
    (text : List Char) : P (read both path text) := by
  unfold read
  dsimp only
  generalize text.splitOnP _ = segments
  -- the last segment is added apart from the others, and is encoded like them
  have hlast : (segments.map (percentEncode pathReserved)).getLast?.getD [] =
      percentEncode pathReserved (segments.getLast?.getD []) := by
    rw [List.getLast?_map]
    cases segments.getLast? <;> rfl
  rw [hlast, ← List.map_dropLast]
  refine step _ _ _ (List.foldlRecOn _ _ h fun p hp s hs => ?_)
  obtain ⟨cs, -, rfl⟩ := List.mem_map.mp hs
  exact step p cs true hp

/-- A path that begins at the root. -/
def IsRooted (path : List Char) : Prop := path.head? = some '/'

theorem IsRooted.of_prefix {front : List Char} (h : IsRooted path) (hp : front <+: path)
    (hn : front ≠ []) : IsRooted front := by
  obtain ⟨rest, rfl⟩ := hp
  obtain ⟨c, front, rfl⟩ := List.exists_cons_of_ne_nil hn
  exact h

theorem IsRooted.append (h : IsRooted path) (rest : List Char) : IsRooted (path ++ rest) := by
  rw [IsRooted, List.head?_append, h]
  rfl

theorem IsRooted.upToSlash (h : IsRooted path) : IsRooted (upToSlash path) := by
  refine h.of_prefix (isPrefix_upToSlash path) fun hn => ?_
  rw [Path.upToSlash, List.reverse_eq_nil_iff, List.dropWhile_eq_nil_iff] at hn
  have := hn '/' (List.mem_reverse.mpr (List.mem_of_head? h))
  simp at this

theorem IsRooted.dropSlash (h : IsRooted path) : IsRooted (dropSlash path) := by
  unfold Path.dropSlash
  dsimp only
  split
  · next hc =>
    refine h.of_prefix (List.dropLast_prefix path) fun hn => ?_
    rw [hn] at hc
    simp [Path.upToSlash] at hc
  · exact h

theorem IsRooted.withSlash (h : IsRooted path) : IsRooted (withSlash path) := by
  unfold Path.withSlash
  split
  · exact h
  · exact h.append _

/-- A path begins at the root, whatever is added to it. -/
theorem IsRooted.add (h : IsRooted path) (segment : List Char) (slash : Bool) :
    IsRooted (add path segment slash) := by
  unfold Path.add
  dsimp only
  split
  · split
    · exact h.dropSlash.upToSlash.withSlash
    · exact h.dropSlash.upToSlash
  · split
    · exact h.withSlash
    · exact (h.append _).append _

end read

section stem

/-- A path without the slash at its end, if it has one; a slash by itself is no path. -/
def stem (path : List Char) : List Char :=
  let cut := if endsWithSlash path then path.dropLast else path
  if cut = ['/'] then [] else cut

/-- The first segment below a path stands behind its stem. -/
theorem extend_trimmed {path cs : List Char} (h : IsRooted path) (hs : IsSegment cs) :
    extend (trimmed path) cs = stem path ++ '/' :: percentEncode segmentReserved cs := by
  have behind {p : List Char} (hp : IsRooted p) :
      (if p.length = 1 then p else p ++ ['/']) = (if p = ['/'] then [] else p) ++ ['/'] := by
    obtain ⟨rest, rfl⟩ := List.head?_eq_some_iff.mp hp
    cases rest with
    | nil => rfl
    | cons c rest => simp
  rw [extend_of_isSegment hs, stem, trimmed]
  by_cases hl : 1 < path.length
  · by_cases he : endsWithSlash path = true
    · have hr : IsRooted path.dropLast := by
        refine h.of_prefix (List.dropLast_prefix path) fun hn => ?_
        have := congrArg List.length hn
        simp only [List.length_dropLast, List.length_nil] at this
        omega
      simp only [hl, he, and_self, if_true, behind hr, List.append_assoc, List.singleton_append]
    · simp only [he, and_false, if_false, behind h, List.append_assoc, List.singleton_append,
        Bool.false_eq_true]
  · obtain ⟨rest, rfl⟩ := List.head?_eq_some_iff.mp h
    obtain rfl : rest = [] := by
      cases rest with
      | nil => rfl
      | cons c rest => simp at hl
    rfl

/-- A slash at the end of a path makes no difference. -/
theorem trimmed_append_slash {path : List Char} (h : IsRooted path)
    (he : endsWithSlash path = false) : trimmed (path ++ ['/']) = trimmed path := by
  have hend : endsWithSlash (path ++ ['/']) = true := by
    simp only [endsWithSlash, List.getLast?_concat, beq_self_eq_true]
  have hl : 1 < (path ++ ['/']).length := by
    obtain ⟨rest, rfl⟩ := List.head?_eq_some_iff.mp h
    simp
  rw [trimmed, if_pos ⟨hl, hend⟩, List.dropLast_concat, trimmed, he]
  simp

end stem

end PortShare.Url.Path
