import PortShare.Url.Percent

/-!
Paths, as the text between the host and the query. Segments are added one by one: one that
stands for the directory itself adds nothing, and one that stands for the directory above
takes the last segment away. -/

namespace PortShare.Url.Path

/-- Is the text the name of a drive, or does it start with one? -/
def startsWithDrive : List Char → Bool
  | [c, d] => c.isAlpha && (d == ':' || d == '|')
  | c :: d :: e :: _ =>
    c.isAlpha && (d == ':' || d == '|') && (e == '/' || e == '\\' || e == '?' || e == '#')
  | _ => false

/-- The text up to and with its last slash. -/
def upToSlash (path : List Char) : List Char := (path.reverse.dropWhile (· != '/')).reverse

def endsWithSlash (path : List Char) : Bool := path.getLast? == some '/'

/-- The path without its last slash, which stays at the root and behind a drive. -/
def dropSlash (path : List Char) : List Char :=
  let before := upToSlash path.dropLast
  let segment := path.dropLast.drop before.length
  if endsWithSlash path && !before.isEmpty && !startsWithDrive segment then path.dropLast
  else path

/-- Is a segment of a path the directory itself, spelled in one of the ways? -/
def isDot (segment : List Char) : Bool :=
  [".", "%2e", "%2E"].any fun s => s.toList == segment

def isDoubleDot (segment : List Char) : Bool :=
  ["..", "%2e%2e", "%2e%2E", "%2E%2e", "%2E%2E", "%2e.", "%2E.", ".%2e", ".%2E"].any fun s =>
    s.toList == segment

def withSlash (path : List Char) : List Char :=
  if endsWithSlash path then path else path ++ ['/']

/-- Adds a segment to a path, and a slash behind it if one is asked for. -/
def add (path segment : List Char) (slash : Bool) : List Char :=
  if isDoubleDot segment then
    let path := upToSlash (dropSlash path)
    if slash then withSlash path else path
  else if isDot segment then withSlash path
  else path ++ segment ++ (if slash then ['/'] else [])

/-- The path that the text behind the first slash of a URL's path writes, to be added to `path`;
`both` says whether a backslash counts as a slash. -/
def read (both : Bool) (path : List Char) (text : List Char) : List Char :=
  let segments := text.splitOnP fun c => c == '/' || (both && c == '\\')
  let encoded := segments.map (percentEncode pathReserved)
  let inner := encoded.dropLast.foldl (fun p s => add p s true) path
  add inner (encoded.getLast?.getD []) false

/-- Adds a segment that is given as a plain text to the path of an endpoint. Tabs and ends of
line in it vanish, and a text of one or two points is left out. -/
def extend (path : List Char) (text : List Char) : List Char :=
  if text = ['.'] ∨ text = ['.', '.'] then path
  else
    let opened := if path.length = 1 then path else path ++ ['/']
    let kept := text.filter fun c => c != '\t' && c != '\n' && c != '\r'
    add opened (percentEncode segmentReserved kept) false

/-- The path without the empty segment that a slash at its end makes. -/
def trimmed (path : List Char) : List Char :=
  if 1 < path.length ∧ endsWithSlash path then path.dropLast else path

end PortShare.Url.Path
