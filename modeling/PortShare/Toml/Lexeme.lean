import PortShare.Text.Numeral

/-!
The smallest parts of a TOML document: blanks, comments, keys and texts. A part starts at the
first character and gives the characters behind it, of which there are fewer. -/

namespace PortShare.Toml

/-- Reads something off the head of the characters, of which it takes at least one. -/
structure Part (α : Type) where
  run : List Char → Option (α × List Char)
  shorter : ∀ {cs rest : List Char} {a : α}, run cs = some (a, rest) → rest.length < cs.length

@[grind →] theorem Part.length_of_run {α : Type} {p : Part α} {cs rest : List Char} {a : α}
    (h : p.run cs = some (a, rest)) : rest.length < cs.length := p.shorter h

@[grind →] theorem some_of_map {α β : Type} {x : Option α} {f : α → β} {b : β}
    (h : x.map f = some b) : ∃ a, x = some a ∧ f a = b := by
  cases x with
  | none => simp at h
  | some a => exact ⟨a, rfl, by simpa using h⟩

@[grind! .] theorem length_dropWhile {α : Type} (p : α → Bool) (as : List α) :
    (as.dropWhile p).length ≤ as.length := (List.dropWhile_suffix p).length_le

def isBlank (c : Char) : Bool := c == ' ' || c == '\t'

def skipBlank (cs : List Char) : List Char := cs.dropWhile isBlank

@[grind! .] theorem length_skipBlank (cs : List Char) : (skipBlank cs).length ≤ cs.length :=
  length_dropWhile isBlank cs

/-- Controls but the tab may stand nowhere as themselves. -/
def isVisible (c : Char) : Bool := c == '\t' || (0x20 ≤ c.toNat && c.toNat != 0x7F)

/-- The characters behind an end of line. -/
def endOfLine? : List Char → Option (List Char)
  | '\n' :: cs => some cs
  | '\r' :: '\n' :: cs => some cs
  | _ => none

@[grind →] theorem length_of_endOfLine {cs rest : List Char} (h : endOfLine? cs = some rest) :
    rest.length < cs.length := by
  unfold endOfLine? at h
  grind

/-- The characters behind a comment, if one stands here. -/
def skipComment : List Char → List Char
  | '#' :: cs => cs.dropWhile isVisible
  | cs => cs

@[grind! .] theorem length_skipComment (cs : List Char) :
    (skipComment cs).length ≤ cs.length := by
  unfold skipComment
  grind

/-- Passes over blanks and a comment, and then over the end of the line or of the document. -/
def lineEnd (cs : List Char) : Option (List Char) :=
  match skipComment (skipBlank cs) with
  | [] => some []
  | c :: cs => endOfLine? (c :: cs)

@[grind →] theorem length_of_lineEnd {cs rest : List Char} {c : Char}
    (h : lineEnd cs = some (c :: rest)) : (c :: rest).length < cs.length := by
  unfold lineEnd at h
  grind

/-- Passes over blanks, comments and ends of lines. -/
def skipFiller (cs : List Char) : List Char :=
  match h : endOfLine? (skipComment (skipBlank cs)) with
  | none => skipComment (skipBlank cs)
  | some rest =>
    have : rest.length < cs.length := by grind
    skipFiller rest
termination_by cs.length

@[grind! .] theorem length_skipFiller (cs : List Char) : (skipFiller cs).length ≤ cs.length := by
  fun_induction skipFiller cs <;> grind

/-- Passes over blanks, and over ends of lines too where an entry may go on `across` them. -/
def skipGap (across : Bool) (cs : List Char) : List Char :=
  if across then skipFiller cs else skipBlank cs

@[grind! .] theorem length_skipGap (across : Bool) (cs : List Char) :
    (skipGap across cs).length ≤ cs.length := by
  unfold skipGap
  grind

/-- The character whose number is written with `count` hexadecimal digits. -/
def hexChar (count : Nat) (cs : List Char) : Option (Char × List Char) :=
  match Numeral.value? 16 (cs.take count) with
  | none => none
  | some n =>
    if (cs.take count).length = count ∧ n.isValidChar then
      some (Char.ofNat n, cs.drop count)
    else none

@[grind →] theorem length_of_hexChar {count : Nat} {cs rest : List Char} {c : Char}
    (h : hexChar count cs = some (c, rest)) : rest.length ≤ cs.length := by
  unfold hexChar at h
  grind

/-- Reads the part of an escape behind its backslash. -/
def escape : List Char → Option (Char × List Char)
  | 'b' :: cs => some ('\x08', cs)
  | 't' :: cs => some ('\t', cs)
  | 'n' :: cs => some ('\n', cs)
  | 'f' :: cs => some ('\x0c', cs)
  | 'r' :: cs => some ('\r', cs)
  | 'e' :: cs => some ('\x1b', cs)
  | '"' :: cs => some ('"', cs)
  | '\\' :: cs => some ('\\', cs)
  | 'x' :: cs => hexChar 2 cs
  | 'u' :: cs => hexChar 4 cs
  | 'U' :: cs => hexChar 8 cs
  | _ => none

@[grind →] theorem length_of_escape {cs rest : List Char} {c : Char}
    (h : escape cs = some (c, rest)) : rest.length < cs.length := by
  unfold escape at h
  grind

/-- Reads a text behind its double quote. -/
def quotedText (cs : List Char) : Option (List Char × List Char) :=
  match cs with
  | [] => none
  | '"' :: rest => some ([], rest)
  | '\\' :: rest =>
    match h : escape rest with
    | none => none
    | some (c, rest') =>
      have := length_of_escape h
      (quotedText rest').map fun (text, after) => (c :: text, after)
  | c :: rest =>
    if isVisible c then (quotedText rest).map fun (text, after) => (c :: text, after) else none
termination_by cs.length
decreasing_by all_goals grind

@[grind →] theorem length_of_quotedText {cs rest text : List Char}
    (h : quotedText cs = some (text, rest)) : rest.length < cs.length := by
  fun_induction quotedText cs generalizing text <;> grind

/-- Reads a text behind its single quote, in which nothing is escaped. -/
def literalText (cs : List Char) : Option (List Char × List Char) :=
  let text := cs.takeWhile fun c => isVisible c && c != '\''
  match cs.drop text.length with
  | '\'' :: rest => some (text, rest)
  | _ => none

@[grind →] theorem length_of_literalText {cs rest text : List Char}
    (h : literalText cs = some (text, rest)) : rest.length < cs.length := by
  unfold literalText at h
  grind [List.length_drop]

/-- The quotes that belong to a text of several lines where `cs` stands at its end, and the
characters behind the end: of up to five quotes the last three close the text. -/
def closing? (quote : Char) (cs : List Char) : Option (List Char × List Char) :=
  let run := (cs.take 5).takeWhile (· == quote)
  if run.length < 3 then none else some (run.drop 3, cs.drop run.length)

@[grind →] theorem length_of_closing {quote : Char} {cs rest text : List Char}
    (h : closing? quote cs = some (text, rest)) : rest.length < cs.length := by
  unfold closing? at h
  have : ((cs.take 5).takeWhile (· == quote)).length ≤ cs.length := by
    have h₁ : ((cs.take 5).takeWhile (· == quote)).length ≤ (cs.take 5).length :=
      (List.takeWhile_prefix _).length_le
    have h₂ : (cs.take 5).length ≤ cs.length := List.length_take_le' 5 cs
    omega
  grind

/-- Passes over blanks and ends of lines. -/
def skipBreaks : List Char → List Char
  | '\r' :: '\n' :: cs => skipBreaks cs
  | c :: cs => if isBlank c || c == '\n' then skipBreaks cs else c :: cs
  | [] => []

@[grind! .] theorem length_skipBreaks (cs : List Char) :
    (skipBreaks cs).length ≤ cs.length := by
  fun_induction skipBreaks cs <;> grind

/-- The characters behind a backslash that ends its line: the blanks and ends of lines after it
are left out. -/
def continuation? (cs : List Char) : Option (List Char) :=
  (endOfLine? (skipBlank cs)).map skipBreaks

@[grind →] theorem length_of_continuation {cs rest : List Char}
    (h : continuation? cs = some rest) : rest.length < cs.length := by
  unfold continuation? at h
  grind

/-- Reads a text of several lines up to its three closing quotes; in double quotes a backslash
escapes or ends a line. -/
def longText (quote : Char) (cs : List Char) : Option (List Char × List Char) :=
  match closing? quote cs with
  | some end_ => some end_
  | none =>
    match cs with
    | [] => none
    | c :: rest =>
      if c == '\\' && quote == '"' then
        match hk : continuation? rest with
        | some rest' =>
          have := length_of_continuation hk
          longText quote rest'
        | none =>
          match he : escape rest with
          | none => none
          | some (c, rest') =>
            have := length_of_escape he
            (longText quote rest').map fun (text, after) => (c :: text, after)
      else if isVisible c || c == '\n' || (c == '\r' && rest.head? == some '\n') then
        (longText quote rest).map fun (text, after) => (c :: text, after)
      else none
termination_by cs.length
decreasing_by all_goals grind

@[grind →] theorem length_of_longText {quote : Char} {cs rest text : List Char}
    (h : longText quote cs = some (text, rest)) : rest.length < cs.length := by
  fun_induction longText quote cs generalizing text <;> grind

/-- An end of line right behind the opening quotes is left out. -/
def withoutFirstBreak (cs : List Char) : List Char := (endOfLine? cs).getD cs

@[grind! .] theorem length_withoutFirstBreak (cs : List Char) :
    (withoutFirstBreak cs).length ≤ cs.length := by
  unfold withoutFirstBreak
  cases h : endOfLine? cs with
  | none => simp
  | some rest => simpa using Nat.le_of_lt (length_of_endOfLine h)

def runText : List Char → Option (List Char × List Char)
  | '"' :: '"' :: '"' :: cs => longText '"' (withoutFirstBreak cs)
  | '\'' :: '\'' :: '\'' :: cs => longText '\'' (withoutFirstBreak cs)
  | '"' :: cs => quotedText cs
  | '\'' :: cs => literalText cs
  | _ => none

theorem length_of_runText {cs rest text : List Char} (h : runText cs = some (text, rest)) :
    rest.length < cs.length := by
  unfold runText at h
  grind

/-- A text in any of the four notations. -/
def text : Part (List Char) := ⟨runText, length_of_runText⟩

def isBareKeyChar (c : Char) : Bool := c.isAlphanum || c == '_' || c == '-'

def runKey : List Char → Option (String × List Char)
  | '"' :: cs => (quotedText cs).map fun (k, rest) => (String.ofList k, rest)
  | '\'' :: cs => (literalText cs).map fun (k, rest) => (String.ofList k, rest)
  | c :: cs =>
    if isBareKeyChar c then
      some (String.ofList (c :: cs.takeWhile isBareKeyChar), cs.dropWhile isBareKeyChar)
    else none
  | [] => none

theorem length_of_runKey {cs rest : List Char} {key : String}
    (h : runKey cs = some (key, rest)) : rest.length < cs.length := by
  unfold runKey at h
  grind

/-- A key without points between its parts. -/
def simpleKey : Part String := ⟨runKey, length_of_runKey⟩

/-- The parts of a key, which points divide, however many there are. -/
def keyParts (cs : List Char) : Option (List String × List Char) :=
  match hk : simpleKey.run cs with
  | none => none
  | some (key, rest) =>
    match hb : skipBlank rest with
    | '.' :: rest' =>
      have : (skipBlank rest').length < cs.length := by grind
      (keyParts (skipBlank rest')).map fun (keys, after) => (key :: keys, after)
    | rest' => some ([key], rest')
termination_by cs.length

@[grind →] theorem length_of_keyParts {cs rest : List Char} {keys : List String}
    (h : keyParts cs = some (keys, rest)) : rest.length < cs.length := by
  fun_induction keyParts cs generalizing keys <;> grind

/-- The most parts that a key may have. -/
def maxKeyParts : Nat := 80

/-- The parts of a key, and the text behind it and the blanks that follow it. -/
def keyPath (cs : List Char) : Option (List String × List Char) :=
  match keyParts cs with
  | some (keys, rest) => if keys.length ≤ maxKeyParts then some (keys, rest) else none
  | none => none

@[grind →] theorem length_of_keyPath {cs rest : List Char} {keys : List String}
    (h : keyPath cs = some (keys, rest)) : rest.length < cs.length := by
  unfold keyPath at h
  grind

end PortShare.Toml
