import PortShare.Text.Numeral

/-!
What a run notes down for whoever watches it. An entry is one object in a log of JSON; in a log
of text it is a line, and what stands behind a line break in it is on lines of its own. -/

namespace PortShare.Log

/-- From the gravest to the least. -/
inductive Level where
  | error | warn | info | debug
  deriving DecidableEq, Repr

def Level.name : Level → String
  | .error => "ERROR"
  | .warn => "WARN"
  | .info => "INFO"
  | .debug => "DEBUG"

def Level.rank : Level → Nat
  | .error => 1
  | .warn => 2
  | .info => 3
  | .debug => 4

structure Entry where
  level : Level
  message : String
  deriving DecidableEq, Repr

inductive Filter where
  | nothing
  /-- Entries of this level and graver ones. -/
  | upTo (level : Level)
  deriving DecidableEq, Repr

def Filter.passes : Filter → Entry → Bool
  | .nothing, _ => false
  | .upTo level, entry => entry.level.rank ≤ level.rank

/-- A filter for all entries, or for those of this program. -/
def Filter.read? : String → Option Filter
  | "off" | "devurl=off" => some .nothing
  | "error" | "devurl=error" => some (.upTo .error)
  | "warn" | "devurl=warn" => some (.upTo .warn)
  | "info" | "devurl=info" => some (.upTo .info)
  | "debug" | "devurl=debug" => some (.upTo .debug)
  | _ => none

/-- A line of what is said beside the output. -/
inductive Line where
  | entry (e : Entry)
  | text (s : String)
  deriving DecidableEq, Repr

/-- A line without the carriage return at its end. -/
def dropReturn (line : List Char) : List Char :=
  if line.getLast? = some '\r' then line.dropLast else line

/-- The text between the line breaks. -/
def textLines (s : String) : List String :=
  (s.toList.splitOn '\n').map fun line => String.ofList (dropReturn line)

def Line.ofText (s : String) : List Line := (textLines s).map Line.text

/-- The character, or an escape for one that could steer a terminal. -/
def tame (c : Char) : List Char :=
  match c with
  | '\x1b' | '\x07' | '\x08' | '\x0c' | '\x7f' =>
    let digits := Numeral.digits 16 c.toNat
    ['\\', 'x'] ++ List.replicate (2 - digits.length) '0' ++ digits
  | c =>
    if 0x80 ≤ c.toNat && c.toNat ≤ 0x9f then
      ['\\', 'u', '\x7b'] ++ Numeral.digits 16 c.toNat ++ ['\x7d']
    else [c]

/-- The lines that an entry takes in a log of JSON or of text. -/
def Entry.lines (json : Bool) (e : Entry) : List Line :=
  if json then [.entry e]
  else
    match textLines (String.ofList (e.message.toList.flatMap tame)) with
    | [] => []
    | first :: rest => .entry ⟨e.level, first⟩ :: rest.map Line.text

end PortShare.Log
