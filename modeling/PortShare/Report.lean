import PortShare.Wire

/-!
What a command prints. Devurls are shown as a table or as JSON. A column of the table is as
wide as the most bytes a cell of it has, and a cell is filled up to that many characters, if the
formatter can count them. -/

namespace PortShare.Report

/-- The cells of a line. -/
structure Row where
  url : List Char
  port : List Char
  access : List Char

def Row.header : Row := ⟨['U', 'R', 'L'], ['P', 'o', 'r', 't'], ['A', 'c', 'c', 'e', 's', 's']⟩

def Row.of (u : DevUrl) : Row :=
  ⟨u.url.toList, Numeral.digits 10 u.port.toNat, u.access.name.toList⟩

def width (cells : List (List Char)) : Nat :=
  (cells.map fun c => (Utf8.encode c).length).foldl max 0

def pad (width : Nat) (cell : List Char) : List Char :=
  cell ++ List.replicate (width - cell.length) ' '

/-- The greatest width that can be worked out while the program runs: the formatter has 16 bits for
it. -/
def maxWidth : Nat := 65535

/-- Fills a cell up to a width that has been worked out. If it is too great, the formatter gives up. -/
def fill? (width : Nat) (cell : List Char) : Option (List Char) :=
  if width ≤ maxWidth then some (pad width cell) else none

/-- What is said when the formatter gives up. -/
def tooWide : String := "Formatting argument out of range"

def trimEnd (line : List Char) : List Char :=
  (line.reverse.dropWhile Category.isWhiteSpace).reverse

/-- Columns stand two blanks apart, and no blanks end the line. -/
def Row.line? (urlWidth portWidth accessWidth : Nat) (r : Row) : Option (List Char) := do
  let url ← fill? urlWidth r.url
  let port ← fill? portWidth r.port
  let access ← fill? accessWidth r.access
  some (trimEnd (url ++ [' ', ' '] ++ port ++ [' ', ' '] ++ access) ++ ['\n'])

/-- The table, unless the formatter gives up. -/
def table (urls : List DevUrl) : Option String :=
  let rows := Row.header :: urls.map Row.of
  let lines := rows.mapM (Row.line? (width (rows.map Row.url)) (width (rows.map Row.port))
    (width (rows.map Row.access)))
  lines.map fun lines => String.ofList lines.flatten

def json (urls : List DevUrl) : String :=
  (Json.Value.list (urls.map DevUrl.toJson)).renderPretty ++ "\n"

def accessLevels : String :=
  String.ofList (AccessLevel.all.flatMap fun level =>
    pad 8 level.name.toList ++ [' ', ' '] ++ level.describe.toList ++ ['\n'])

end PortShare.Report
