import PortShare.Toml.Lexeme
import PortShare.Toml.Table

/-! Reading TOML documents: values, and lines that set one or open a table. -/

namespace PortShare.Toml

@[grind! .] theorem length_wordChars (cs : List Char) :
    (cs.drop (wordChars cs).length).length ≤ cs.length := by simp

def runWord : List Char → Option (Item × List Char)
  | [] => none
  | c :: cs =>
    match wordChars (c :: cs) with
    | [] => none
    | w :: ws => (Word.read? (w :: ws)).map fun word => (.word word, cs.drop ws.length)

theorem length_of_runWord {cs rest : List Char} {item : Item}
    (h : runWord cs = some (item, rest)) : rest.length < cs.length := by
  unfold runWord at h
  grind [List.length_drop]

/-- Reads a word. -/
def word : Part Item := ⟨runWord, length_of_runWord⟩

theorem length_of_comma {value : Part Item} {cs start rest rest' : List Char} {item : Item}
    (hf : skipFiller cs = start) (hv : value.run start = some (item, rest))
    (hr : skipFiller rest = ',' :: rest') : rest'.length < cs.length := by grind

/-- Reads the values of a list behind its bracket or a comma, and its end. -/
def listItems (value : Part Item) (cs : List Char) : Option (List Item × List Char) :=
  match hf : skipFiller cs with
  | ']' :: rest => some ([], rest)
  | start =>
    match hv : value.run start with
    | none => none
    | some (item, rest) =>
      match hr : skipFiller rest with
      | ']' :: rest => some ([item], rest)
      | ',' :: rest' =>
        have := length_of_comma hf hv hr
        (listItems value rest').map fun (items, after) => (item :: items, after)
      | _ => none
termination_by cs.length

@[grind →] theorem length_of_listItems {value : Part Item} {cs rest : List Char}
    {items : List Item} (h : listItems value cs = some (items, rest)) :
    rest.length < cs.length := by
  fun_induction listItems value cs generalizing items <;> grind

/-- Reads a key, an equals sign and a value, which may stand on lines of their own if the entry
goes `across` lines. -/
def assignment (value : Part Item) (across : Bool) (cs : List Char) :
    Option (List String × Item × List Char) :=
  match keyPath cs with
  | none => none
  | some (keys, rest) =>
    match skipGap across rest with
    | '=' :: rest =>
      (value.run (skipGap across rest)).map fun (item, rest) => (keys, item, rest)
    | _ => none

@[grind →] theorem length_of_assignment {value : Part Item} {across : Bool}
    {cs rest : List Char} {keys : List String} {item : Item}
    (h : assignment value across cs = some (keys, item, rest)) : rest.length < cs.length := by
  unfold assignment at h
  grind

/-- Reads the entries of a table in braces behind the opening one or a comma, and its end. -/
def inlineEntries (value : Part Item) (table : Table) (cs : List Char) :
    Option (Table × List Char) :=
  match hf : skipFiller cs with
  | '\x7d' :: rest => some (table, rest)
  | start =>
    match ha : assignment value true start with
    | none => none
    | some (keys, item, rest) =>
      match table.insert keys item with
      | none => none
      | some table =>
        match hr : skipFiller rest with
        | '\x7d' :: rest => some (table, rest)
        | ',' :: rest' =>
          have : rest'.length < cs.length := by grind
          inlineEntries value table rest'
        | _ => none
termination_by cs.length

@[grind →] theorem length_of_inlineEntries {value : Part Item} {table table' : Table}
    {cs rest : List Char} (h : inlineEntries value table cs = some (table', rest)) :
    rest.length < cs.length := by
  fun_induction inlineEntries value table cs <;> grind

def runFlat : List Char → Option (Item × List Char)
  | [] => none
  | c :: cs =>
    if c = '"' ∨ c = '\'' then
      (text.run (c :: cs)).map fun (t, rest) => (.text (String.ofList t), rest)
    else word.run (c :: cs)

@[grind →] theorem length_of_runFlat {cs rest : List Char} {item : Item}
    (h : runFlat cs = some (item, rest)) : rest.length < cs.length := by
  unfold runFlat at h
  grind

/-- A text or a word. -/
def flat : Part Item := ⟨runFlat, length_of_runFlat⟩

def runNested (inner : Part Item) : List Char → Option (Item × List Char)
  | [] => none
  | c :: cs =>
    if c = '[' then (listItems inner cs).map fun (items, rest) => (.list items, rest)
    else if c = '\x7b' then
      (inlineEntries inner (.written, []) cs).map fun (t, rest) => (.table .inline t.2, rest)
    else flat.run (c :: cs)

theorem length_of_runNested {inner : Part Item} {cs rest : List Char} {item : Item}
    (h : runNested inner cs = some (item, rest)) : rest.length < cs.length := by
  unfold runNested at h
  grind

/-- A list or a table of what `inner` reads, a text or a word. -/
def nested (inner : Part Item) : Part Item := ⟨runNested inner, length_of_runNested⟩

/-- Reads a value whose lists and tables are nested at most `depth` deep. -/
def value : Nat → Part Item
  | 0 => flat
  | depth + 1 => nested (value depth)

/-- The deepest nesting of lists and tables in a value. -/
def maxDepth : Nat := 80

/-- A line of a document. -/
inductive Line where
  | empty
  | header (keys : List String)
  | nextHeader (keys : List String)
  | entry (keys : List String) (item : Item)

/-- Reads the content of a line from its first character that is no blank. -/
def lineContent : List Char → Option (Line × List Char)
  | '[' :: '[' :: cs =>
    match keyPath (skipBlank cs) with
    | some (keys, ']' :: ']' :: rest) => some (.nextHeader keys, rest)
    | _ => none
  | '[' :: cs =>
    match keyPath (skipBlank cs) with
    | some (keys, ']' :: rest) => some (.header keys, rest)
    | _ => none
  | cs =>
    (assignment (value maxDepth) false cs).map fun (keys, item, rest) => (.entry keys item, rest)

/-- The document as read so far: the root table, and the path of the last header. -/
structure Document where
  root : Table
  header : List String

namespace Document

def add (d : Document) : Line → Option Document
  | .empty => some d
  | .header keys => (d.root.openTable keys).map fun root => ⟨root, keys⟩
  | .nextHeader keys => (d.root.openNext keys).map fun root => ⟨root, keys⟩
  | .entry keys item =>
    (Table.change false (Table.insert keys item) d.header d.root).map fun root =>
      { d with root }

/-- Is the line empty but for a comment? -/
def isEmptyLine (cs : List Char) : Bool :=
  match cs with
  | [] => true
  | c :: _ => c == '#' || c == '\n' || c == '\r'

@[grind →] theorem length_of_lineContent {cs rest : List Char} {line : Line}
    (h : lineContent cs = some (line, rest)) : rest.length < cs.length := by
  unfold lineContent at h
  grind

/-- Reads all lines. -/
def lines (d : Document) (cs : List Char) : Option Document :=
  match hs : skipBlank cs with
  | [] => some d
  | c :: rest =>
    match hc : if isEmptyLine (c :: rest) then some (Line.empty, c :: rest)
        else lineContent (c :: rest) with
    | none => none
    | some (line, rest) =>
      match d.add line, he : lineEnd rest with
      | some d, some [] => some d
      | some d, some (c :: after) =>
        have : (c :: after).length < cs.length := by grind
        lines d (c :: after)
      | _, _ => none
termination_by cs.length

end Document

/-- The root table of a document; a byte order mark may stand in front. -/
def read (s : String) : Option Table :=
  let cs := match s.toList with
    | '\uFEFF' :: cs => cs
    | cs => cs
  (Document.lines ⟨(.written, []), []⟩ cs).map Document.root

end PortShare.Toml
