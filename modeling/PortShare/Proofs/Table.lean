import Mathlib.Data.List.DropRight
import Mathlib.Data.List.Forall2
import PortShare.Proofs.Port
import PortShare.Report

/-! The table of a list. There is one unless a URL takes more bytes than the formatter can count.
Its columns stand at the same places in every line, whatever the cells hold, and where no cell has
white space in it the cells can be read back. -/

namespace PortShare.Report

section blanks

/-- The text ends in something that can be seen. -/
def EndsInInk (cs : List Char) : Prop := ∃ c, cs.getLast? = some c ∧ Category.isWhiteSpace c = false

theorem EndsInInk.append {cs : List Char} (h : EndsInInk cs) (front : List Char) :
    EndsInInk (front ++ cs) := by
  obtain ⟨c, hlast, hc⟩ := h
  exact ⟨c, by rw [List.getLast?_append, hlast, Option.some_or], hc⟩

theorem trimEnd_of_endsInInk {cs : List Char} (h : EndsInInk cs) : trimEnd cs = cs := by
  obtain ⟨c, hlast, hc⟩ := h
  obtain ⟨front, rfl⟩ := List.getLast?_eq_some_iff.mp hlast
  exact List.rdropWhile_concat_neg _ _ _ (by simp [hc])

/-- Nothing but the blanks at the end is cut off. -/
theorem trimEnd_append_blanks {cs : List Char} (h : EndsInInk cs) (n : Nat) :
    trimEnd (cs ++ List.replicate n ' ') = cs := by
  induction n with
  | zero => rw [List.replicate_zero, List.append_nil, trimEnd_of_endsInInk h]
  | succ n ih =>
    rw [List.replicate_succ', ← List.append_assoc]
    exact (List.rdropWhile_concat_pos _ _ _ (by decide)).trans ih

end blanks

section widths

theorem le_foldl_max (ns : List Nat) (n : Nat) :
    n ≤ ns.foldl max n ∧ ∀ m ∈ ns, m ≤ ns.foldl max n := by
  induction ns generalizing n with
  | nil => exact ⟨Nat.le_refl n, nofun⟩
  | cons m ns ih =>
    obtain ⟨hn, hns⟩ := ih (max n m)
    rw [List.foldl_cons, List.forall_mem_cons]
    exact ⟨by omega, by omega, hns⟩

theorem foldl_max_le_iff {ns : List Nat} {n bound : Nat} :
    ns.foldl max n ≤ bound ↔ n ≤ bound ∧ ∀ m ∈ ns, m ≤ bound := by
  induction ns generalizing n with
  | nil => simp
  | cons m ns ih => rw [List.foldl_cons, ih, List.forall_mem_cons, Nat.max_le, and_assoc]

/-- A column has room for each of its cells, since no cell has more characters than bytes. -/
theorem length_le_width {cells : List (List Char)} {cell : List Char} (h : cell ∈ cells) :
    cell.length ≤ width cells := by
  have hbytes := (le_foldl_max (cells.map fun c => (Utf8.encode c).length) 0).2 _
    (List.mem_map_of_mem h)
  exact (Utf8.length_le_length_encode cell).trans hbytes

variable (urls : List DevUrl)

/-- The bytes of the longest URL, but no fewer than those of the word at the head. -/
def urlWidth : Nat := (urls.map fun u => u.url.utf8ByteSize).foldl max 3

/-- The digits of the longest port, but no fewer than the letters of the word at the head. -/
def portWidth : Nat := (urls.map fun u => (toString u.port).length).foldl max 4

theorem toString_port (port : UInt16) : toString port = Numeral.decimal port.toNat := by
  have hport : toString port = String.ofList (Nat.toDigits 10 port.toNat) :=
    Nat.repr_eq_ofList_toDigits
  rw [hport, ← Numeral.digits_ten, Numeral.decimal]

theorem port_of (u : DevUrl) : (Row.of u).port = (toString u.port).toList := by
  rw [toString_port, Numeral.toList_decimal, Row.of]

theorem utf8Size_of_isDigit {c : Char} (h : IsDigit c) : c.utf8Size = 1 := by
  rw [Char.utf8Size_eq_one_iff, UInt32.le_iff_toNat_le]
  exact (isDigit_iff_toNat.mp h).2.trans (by decide)

theorem length_encode_of_digits {cs : List Char} (h : ∀ c ∈ cs, IsDigit c) :
    (Utf8.encode cs).length = cs.length := by
  induction cs with
  | nil => rfl
  | cons c cs ih =>
    rw [List.forall_mem_cons] at h
    rw [Utf8.encode_cons, List.length_append, Utf8.length_encodeChar, utf8Size_of_isDigit h.1,
      ih h.2, List.length_cons, Nat.add_comm]

/-- The lines of a table as rows of cells. -/
def rows : List Row := Row.header :: urls.map Row.of

theorem width_url : width ((rows urls).map Row.url) = urlWidth urls := by
  have hurl (u : DevUrl) : (Utf8.encode (Row.of u).url).length = u.url.utf8ByteSize := by
    rw [Utf8.length_encode, Row.of, String.ofList_toList]
  simp only [width, rows, List.map_cons, List.map_map, List.foldl_cons, Function.comp_def, hurl]
  rfl

theorem width_port : width ((rows urls).map Row.port) = portWidth urls := by
  have hport (u : DevUrl) : (Utf8.encode (Row.of u).port).length = (toString u.port).length := by
    rw [toString_port, Numeral.decimal, String.length_ofList]
    exact length_encode_of_digits fun c hc => isDigit_of_mem_digits hc
  simp only [width, rows, List.map_cons, List.map_map, List.foldl_cons, Function.comp_def, hport]
  rfl

theorem urlWidth_le_iff :
    urlWidth urls ≤ maxWidth ↔ ∀ u ∈ urls, u.url.utf8ByteSize ≤ maxWidth := by
  rw [urlWidth, foldl_max_le_iff, List.forall_mem_map]
  exact and_iff_right (by decide)

/-- Ports have five digits at most, so that their column is never too wide. -/
theorem portWidth_le : portWidth urls ≤ maxWidth := by
  rw [portWidth, foldl_max_le_iff, List.forall_mem_map]
  refine ⟨by decide, fun u _ => ?_⟩
  have hdigits : (Nat.toDigits 10 u.port.toNat).length ≤ 5 :=
    (Nat.length_toDigits_le_iff (by decide) (by decide)).mpr (by have := u.port.toNat_lt; omega)
  rw [toString_port, Numeral.decimal, String.length_ofList, Numeral.digits_ten]
  exact hdigits.trans (by decide)

theorem accessWidth_le : width ((rows urls).map Row.access) ≤ maxWidth := by
  have hname (level : AccessLevel) : (Utf8.encode level.name.toList).length ≤ maxWidth := by
    cases level <;> decide
  rw [width, foldl_max_le_iff, List.forall_mem_map, List.forall_mem_map, rows, List.forall_mem_cons,
    List.forall_mem_map]
  exact ⟨by decide, by decide, fun u _ => hname u.access⟩

end widths

section columns

/-- The cells of a line: the first at its beginning, the others at the places given for them, at
least two blanks and nothing but blanks between them, and the end of the line behind the third. -/
def Stand (second third : Nat) (url port access : String) (line : List Char) : Prop :=
  ∃ gap gap', line = url.toList ++ (List.replicate gap ' ' ++ (port.toList ++
      (List.replicate gap' ' ' ++ (access.toList ++ ['\n'])))) ∧
    2 ≤ gap ∧ 2 ≤ gap' ∧ url.length + gap = second ∧ second + port.length + gap' = third

/-- A line whose cells are filled up. -/
def Row.line (urlWidth portWidth accessWidth : Nat) (r : Row) : List Char :=
  trimEnd (pad urlWidth r.url ++ [' ', ' '] ++ pad portWidth r.port ++ [' ', ' '] ++
    pad accessWidth r.access) ++ ['\n']

theorem pad_append_blanks (width : Nat) (cell rest : List Char) :
    pad width cell ++ ' ' :: ' ' :: rest =
      cell ++ (List.replicate (width - cell.length + 2) ' ' ++ rest) := by
  simp only [pad, List.append_assoc, List.replicate_add]
  rfl

/-- Cells that fit their columns stand where the columns are. -/
theorem stand_line {urlWidth portWidth : Nat} {url port access : String} (accessWidth : Nat)
    (hurl : url.length ≤ urlWidth) (hport : port.length ≤ portWidth)
    (haccess : EndsInInk access.toList) :
    Stand (urlWidth + 2) (urlWidth + portWidth + 4) url port access
      ((⟨url.toList, port.toList, access.toList⟩ : Row).line urlWidth portWidth accessWidth) := by
  refine ⟨urlWidth - url.length + 2, portWidth - port.length + 2, ?_, by omega, by omega,
    by omega, by omega⟩
  have hpad : pad accessWidth access.toList =
      access.toList ++ List.replicate (accessWidth - access.toList.length) ' ' := rfl
  rw [Row.line, hpad, ← List.append_assoc, trimEnd_append_blanks (haccess.append _)]
  simp only [List.append_assoc, List.nil_append, pad_append_blanks, String.length_toList]

theorem endsInInk_access (level : AccessLevel) : EndsInInk level.name.toList := by
  cases level
  · exact ⟨'E', by decide, by decide⟩
  · exact ⟨'G', by decide, by decide⟩
  · exact ⟨'D', by decide, by decide⟩
  · exact ⟨'C', by decide, by decide⟩

variable (urls : List DevUrl)

/-- The line of a devurl in the table of a list. -/
def lineOf (u : DevUrl) : List Char :=
  (Row.of u).line (urlWidth urls) (portWidth urls) (width ((rows urls).map Row.access))

def headerLine : List Char :=
  Row.header.line (urlWidth urls) (portWidth urls) (width ((rows urls).map Row.access))

/-- The formatter gives up at the first line or at none, since every line is as wide. -/
theorem table_eq : table urls = if ∀ u ∈ urls, u.url.utf8ByteSize ≤ maxWidth then
    some (String.ofList (headerLine urls :: urls.map (lineOf urls)).flatten) else none := by
  have hmap : table urls = ((rows urls).mapM (Row.line? (urlWidth urls) (portWidth urls)
      (width ((rows urls).map Row.access)))).map fun lines => String.ofList lines.flatten := by
    rw [← width_url, ← width_port]
    rfl
  rw [hmap]
  split
  next h =>
    have hline : Row.line? (urlWidth urls) (portWidth urls) (width ((rows urls).map Row.access)) =
        fun r => pure (r.line (urlWidth urls) (portWidth urls)
          (width ((rows urls).map Row.access))) := by
      funext r
      simp only [Row.line?, fill?, if_pos ((urlWidth_le_iff urls).mpr h),
        if_pos (portWidth_le urls), if_pos (accessWidth_le urls)]
      rfl
    rw [hline, List.mapM_pure, rows, List.map_cons, List.map_map]
    rfl
  next h =>
    have hheader : Row.header.line? (urlWidth urls) (portWidth urls)
        (width ((rows urls).map Row.access)) = none := by
      simp only [Row.line?, fill?, if_neg (mt (urlWidth_le_iff urls).mp h)]
      rfl
    rw [rows, List.mapM_cons, ← rows, hheader]
    rfl

theorem stand_headerLine : Stand (urlWidth urls + 2) (urlWidth urls + portWidth urls + 4)
    "URL" "Port" "Access" (headerLine urls) :=
  stand_line _ (le_foldl_max _ 3).1 (le_foldl_max _ 4).1 ⟨'s', by decide, by decide⟩

theorem stand_lineOf {u : DevUrl} (h : u ∈ urls) :
    Stand (urlWidth urls + 2) (urlWidth urls + portWidth urls + 4)
      u.url (toString u.port) u.access.name (lineOf urls u) := by
  have hrow : Row.of u ∈ rows urls := List.mem_cons_of_mem _ (List.mem_map_of_mem h)
  have hurl := length_le_width (List.mem_map_of_mem (f := Row.url) hrow)
  have hport := length_le_width (List.mem_map_of_mem (f := Row.port) hrow)
  rw [width_url] at hurl
  rw [width_port, port_of, String.length_toList] at hport
  have hline := stand_line (width ((rows urls).map Row.access)) (String.length_toList ▸ hurl) hport
    (endsInInk_access u.access)
  rwa [← port_of] at hline

end columns

section reading

/-- The lines of a text; the last one may go without a line break. -/
def lines (text : List Char) : List (List Char) :=
  let parts := text.splitOn '\n'
  if parts.getLast? = some [] then parts.dropLast else parts

/-- What stands between the blanks of a line. -/
def words (line : List Char) : List (List Char) := (line.splitOn ' ').filter fun w => !w.isEmpty

/-- The words of a text, line by line. -/
def wordsByLine (text : String) : List (List String) :=
  (lines text.toList).map fun line => (words line).map String.ofList

theorem splitOn_append_cons {c : Char} {part : List Char} (h : c ∉ part) (rest : List Char) :
    (part ++ c :: rest).splitOn c = part :: rest.splitOn c :=
  List.splitOnP_append_cons_of_forall_mem
    (fun _ hd => beq_false_of_ne (ne_of_mem_of_not_mem hd h)) c (beq_self_eq_true c) rest

theorem splitOn_lines {c : Char} {parts : List (List Char)} (h : ∀ part ∈ parts, c ∉ part) :
    ((parts.map (· ++ [c])).flatten).splitOn c = parts ++ [[]] := by
  induction parts with
  | nil => rfl
  | cons part parts ih =>
    rw [List.forall_mem_cons] at h
    rw [List.map_cons, List.flatten_cons, List.append_assoc, List.singleton_append,
      splitOn_append_cons h.1, ih h.2, List.cons_append]

/-- A line with its line break behind it. -/
def IsLine (line : List Char) : Prop := line = line.dropLast ++ ['\n'] ∧ '\n' ∉ line.dropLast

theorem lines_flatten {parts : List (List Char)} (h : ∀ part ∈ parts, IsLine part) :
    lines parts.flatten = parts.map List.dropLast := by
  have hparts : (parts.map List.dropLast).map (· ++ ['\n']) = parts := by
    rw [List.map_map]
    exact (List.map_congr_left fun part hp => (h part hp).1.symm).trans (List.map_id' parts)
  have hfree : ∀ part ∈ parts.map List.dropLast, '\n' ∉ part :=
    List.forall_mem_map.mpr fun part hp => (h part hp).2
  have hsplit := splitOn_lines hfree
  rw [hparts] at hsplit
  rw [lines, hsplit]
  simp

theorem words_blanks (n : Nat) (rest : List Char) :
    words (List.replicate n ' ' ++ rest) = words rest := by
  induction n with
  | zero => rfl
  | succ n ih =>
    have hsplit := splitOn_append_cons (c := ' ') List.not_mem_nil (List.replicate n ' ' ++ rest)
    rw [List.nil_append] at hsplit
    rw [List.replicate_succ, List.cons_append, words, hsplit]
    exact ih

section word

variable {word : List Char} (hword : word ≠ []) (h : ' ' ∉ word)

include hword h

theorem words_of_word : words word = [word] := by
  have hsplit : word.splitOn ' ' = [word] :=
    List.splitOnP_eq_singleton fun c hc => beq_false_of_ne (ne_of_mem_of_not_mem hc h)
  rw [words, hsplit]
  simp [hword]

theorem words_append {n : Nat} (hn : 0 < n) (rest : List Char) :
    words (word ++ (List.replicate n ' ' ++ rest)) = word :: words rest := by
  obtain ⟨n, rfl⟩ := Nat.exists_eq_succ_of_ne_zero hn.ne'
  rw [List.replicate_succ, List.cons_append, words, splitOn_append_cons h,
    List.filter_cons_of_pos (by simp [hword])]
  exact congrArg (word :: ·) (words_blanks n rest)

end word

/-- A text that can stand as a cell: there is something in it, and no white space. -/
def IsSolid (s : String) : Prop := s ≠ "" ∧ ∀ c ∈ s.toList, Category.isWhiteSpace c = false

theorem IsSolid.not_mem {s : String} (h : IsSolid s) {c : Char}
    (hc : Category.isWhiteSpace c = true) : c ∉ s.toList := by
  intro hm
  rw [h.2 c hm] at hc
  cases hc

theorem IsSolid.ne_nil {s : String} (h : IsSolid s) : s.toList ≠ [] :=
  fun hs => h.1 (String.toList_eq_nil_iff.mp hs)

theorem IsSolid.of_all {s : String} (hne : s ≠ "")
    (h : (s.toList.all fun c => !Category.isWhiteSpace c) = true) : IsSolid s :=
  ⟨hne, fun c hc => by simpa using List.all_eq_true.mp h c hc⟩

theorem isSolid_port (port : UInt16) : IsSolid (toString port) := by
  have all : ∀ d : Fin 10, Category.isWhiteSpace (Char.ofNat (48 + d)) = false := by decide
  rw [toString_port]
  obtain ⟨hne, hdigits⟩ := isNumeral_iff.mp (isNumeral_decimal port.toNat)
  refine ⟨hne, fun c hc => ?_⟩
  obtain ⟨hlow, hhigh⟩ := isDigit_iff_toNat.mp (hdigits c hc)
  have hd := all ⟨c.toNat - 48, by omega⟩
  rwa [show 48 + (c.toNat - 48) = c.toNat by omega, Char.ofNat_toNat] at hd

theorem isSolid_access (level : AccessLevel) : IsSolid level.name := by
  cases level <;> exact .of_all (by decide) (by decide)

/-- The cells of a line are its words. -/
theorem Stand.words_eq {second third : Nat} {url port access : String} {line : List Char}
    (h : Stand second third url port access line) (hurl : IsSolid url) (hport : IsSolid port)
    (haccess : IsSolid access) :
    IsLine line ∧ (words line.dropLast).map String.ofList = [url, port, access] := by
  obtain ⟨gap, gap', hline, hgap, hgap', -, -⟩ := h
  have hfront : line = (url.toList ++ (List.replicate gap ' ' ++ (port.toList ++
      (List.replicate gap' ' ' ++ access.toList)))) ++ ['\n'] := by
    simpa only [List.append_assoc] using hline
  have hblank : Category.isWhiteSpace ' ' = true := by decide
  have hbreak : Category.isWhiteSpace '\n' = true := by decide
  rw [IsLine, hfront, List.dropLast_concat]
  refine ⟨⟨rfl, ?_⟩, ?_⟩
  · simp [hurl.not_mem hbreak, hport.not_mem hbreak, haccess.not_mem hbreak]
  · rw [words_append hurl.ne_nil (hurl.not_mem hblank) (by omega),
      words_append hport.ne_nil (hport.not_mem hblank) (by omega),
      words_of_word haccess.ne_nil (haccess.not_mem hblank)]
    simp only [List.map_cons, List.map_nil, String.ofList_toList]

variable {urls urls' : List DevUrl}

theorem wordsByLine_table (h : ∀ u ∈ urls, IsSolid u.url) {text : String}
    (ht : table urls = some text) : wordsByLine text =
    ["URL", "Port", "Access"] :: urls.map fun u => [u.url, toString u.port, u.access.name] := by
  have hheader := (stand_headerLine urls).words_eq (.of_all (by decide) (by decide))
    (.of_all (by decide) (by decide)) (.of_all (by decide) (by decide))
  have hline (u : DevUrl) (hu : u ∈ urls) := (stand_lineOf urls hu).words_eq (h u hu)
    (isSolid_port u.port) (isSolid_access u.access)
  have hlines : ∀ line ∈ headerLine urls :: urls.map (lineOf urls), IsLine line := by
    rw [List.forall_mem_cons, List.forall_mem_map]
    exact ⟨hheader.1, fun u hu => (hline u hu).1⟩
  rw [table_eq, Option.ite_none_right_eq_some, Option.some.injEq] at ht
  rw [wordsByLine, ← ht.2, String.toList_ofList, lines_flatten hlines, List.map_map, List.map_cons,
    List.map_map, Function.comp_apply, hheader.2]
  refine congrArg (List.cons _) (List.map_congr_left fun u hu => ?_)
  rw [Function.comp_apply, Function.comp_apply, (hline u hu).2]

/-- What a table shows of a devurl. -/
def shown (u : DevUrl) : String × UInt16 × AccessLevel := (u.url, u.port, u.access)

/-- Nothing else of a devurl has any influence on the table. -/
theorem table_congr (h : urls.map shown = urls'.map shown) : table urls = table urls' := by
  let row (s : String × UInt16 × AccessLevel) : Row :=
    ⟨s.1.toList, Numeral.digits 10 s.2.1.toNat, s.2.2.name.toList⟩
  have hrows : urls.map Row.of = urls'.map Row.of := by
    have hmap := congrArg (List.map row) h
    rwa [List.map_map, List.map_map] at hmap
  simp only [table, hrows]

theorem shown_of_cells {u v : DevUrl}
    (h : [u.url, toString u.port, u.access.name] = [v.url, toString v.port, v.access.name]) :
    shown u = shown v := by
  obtain ⟨hurl, h⟩ := List.cons.inj h
  obtain ⟨hport, h⟩ := List.cons.inj h
  rw [toString_port, toString_port, Numeral.decimal_inj, UInt16.toNat_inj] at hport
  rw [shown, shown, hurl, hport, AccessLevel.name_inj.mp (List.head_eq_of_cons_eq h)]

theorem map_shown_of_table (h : ∀ u ∈ urls, IsSolid u.url) (h' : ∀ u ∈ urls', IsSolid u.url)
    {text : String} (ht : table urls = some text) (ht' : table urls' = some text) :
    urls.map shown = urls'.map shown := by
  have hcells := wordsByLine_table h ht
  rw [wordsByLine_table h' ht'] at hcells
  have hmap := (List.cons.inj hcells).2.symm
  rw [← List.forall₂_eq_eq_eq, List.forall₂_map_left_iff, List.forall₂_map_right_iff] at hmap ⊢
  exact hmap.imp fun u v => shown_of_cells

end reading

end PortShare.Report
