import PortShare.Url.Form
import PortShare.Url.Host
import PortShare.Url.Path

/-!
Reading URLs. Ends are trimmed and tabs and ends of line vanish. Schemes that say how hosts
are looked up must have one and take slashes and backslashes alike. -/

namespace PortShare.Url

/-- Behind the scheme of a URL stands a path, or text that is not divided further. -/
inductive Location where
  | path (host : Option Host) (port : Option Nat) (path : List Char)
  | unread (text : List Char)
  deriving DecidableEq, Repr

end PortShare.Url

namespace PortShare

structure Url where
  scheme : List Char
  location : Url.Location
  query : Option (List Char)
  fragment : Option (List Char)
  deriving DecidableEq, Repr

end PortShare

namespace PortShare.Url

inductive Kind where
  /-- Hosts are looked up. -/
  | known
  | file
  | other
  deriving DecidableEq, Repr

def kindOf (scheme : List Char) : Kind :=
  if ["http", "https", "ws", "wss", "ftp"].any fun s => s.toList == scheme then .known
  else if scheme = "file".toList then .file
  else .other

def isTrimmed (c : Char) : Bool := c.toNat ≤ 0x20

/-- The text that counts. -/
def clean (cs : List Char) : List Char :=
  let front := cs.dropWhile isTrimmed
  let trimmed := (front.reverse.dropWhile isTrimmed).reverse
  trimmed.filter fun c => c != '\t' && c != '\n' && c != '\r'

def isSchemeChar (c : Char) : Bool := c.isAlphanum || c == '+' || c == '-' || c == '.'

/-- The scheme in small letters, and the text behind its colon. -/
def splitScheme (cs : List Char) : Option (List Char × List Char) :=
  let scheme := cs.takeWhile isSchemeChar
  match scheme.head?, cs.dropWhile isSchemeChar with
  | some c, ':' :: rest => if c.isAlpha then some (scheme.map Char.toLower, rest) else none
  | _, _ => none

/-- Does the authority of a URL end at this character? -/
def endsAuthority (slashes : Bool) (c : Char) : Bool :=
  c == '/' || c == '?' || c == '#' || (slashes && c == '\\')

/-- What stands before the last at sign of an authority, and the text behind it. -/
def splitUser (slashes : Bool) (cs : List Char) : Option (List Char) × List Char :=
  let authority := cs.takeWhile fun c => !endsAuthority slashes c
  let behind := (authority.reverse.takeWhile (· != '@')).reverse
  if behind.length = authority.length then (none, cs)
  else
    let user := authority.take (authority.length - behind.length - 1)
    (some user, cs.drop (user.length + 1))

/-- How many characters of the text belong to a host. -/
def hostLength (slashes : Bool) : Bool → List Char → Nat
  | _, [] => 0
  | brackets, c :: cs =>
    if (c == ':' && !brackets) || endsAuthority slashes c then 0
    else hostLength slashes (c == '[' || (brackets && c != ']')) cs + 1

/-- The port behind a colon, and the text behind the port. -/
def splitPort (cs : List Char) : Except UrlFault (Option Nat × List Char) :=
  let digits := cs.takeWhile Char.isDigit
  let rest := cs.dropWhile Char.isDigit
  if 65535 < Numeral.value 10 digits then .error .invalidPort
  else
    match rest with
    | [] => .ok (Numeral.value? 10 digits, rest)
    | c :: _ =>
      if endsAuthority true c then .ok (Numeral.value? 10 digits, rest) else .error .invalidPort

/-- The host and port of an authority, and the text behind it. -/
def splitHost (known : Bool) (cs : List Char) :
    Except UrlFault (Option Host × Option Nat × List Char) :=
  let (user, cs) := splitUser known cs
  match user, cs with
  | some [], c :: _ =>
    if endsAuthority known c then .error .emptyHost else hostAndPort false cs
  | user, cs => hostAndPort (user.any fun u => u != [] && u != [':']) cs
where
  hostAndPort (user : Bool) (cs : List Char) :
      Except UrlFault (Option Host × Option Nat × List Char) :=
    let text := cs.take (hostLength known false cs)
    let rest := cs.drop text.length
    if text.isEmpty && (known || user || rest.head? == some ':') then .error .emptyHost
    else
      match Host.read known text with
      | .error e => .error e
      | .ok host =>
        let host := if text.isEmpty then none else some host
        match rest with
        | ':' :: rest => (splitPort rest).map fun (port, rest) => (host, port, rest)
        | rest => .ok (host, none, rest)

/-- The text before a query or fragment, and those. -/
def splitTail (reserved : List Char) (cs : List Char) :
    List Char × Option (List Char) × Option (List Char) :=
  let front := cs.takeWhile fun c => c != '?' && c != '#'
  match cs.drop front.length with
  | '?' :: rest =>
    let query := rest.takeWhile (· != '#')
    (front, some (percentEncode reserved query), fragment (rest.drop query.length))
  | rest => (front, none, fragment rest)
where
  fragment : List Char → Option (List Char)
    | '#' :: cs => some (percentEncode fragmentReserved cs)
    | _ => none

/-- The path of a URL with an authority. -/
def readPath (known : Bool) : List Char → List Char
  | [] => if known then ['/'] else []
  | c :: cs =>
    if c = '/' ∨ (known ∧ c = '\\') then Path.read known ['/'] cs
    else Path.read known ['/'] (c :: cs)

def build (scheme : List Char) (known : Bool) (location : List Char → Location)
    (cs : List Char) : Url :=
  let reserved := if known then '\'' :: queryReserved else queryReserved
  let (front, query, fragment) := splitTail reserved cs
  ⟨scheme, location front, query, fragment⟩

/-- Reads what follows the slashes in front of an authority. -/
def readAuthority (scheme : List Char) (known : Bool) (cs : List Char) : Except UrlFault Url :=
  match splitHost known cs with
  | .error e => .error e
  | .ok (host, port, rest) =>
    .ok (build scheme known (fun front => .path host port (readPath known front)) rest)

/-- The host of a file, if it is on another computer. -/
def fileHost (cs : List Char) : Except UrlFault (Option Host) :=
  if cs.isEmpty ∨ (cs.length = 2 ∧ Path.startsWithDrive cs) then .ok none
  else
    match Host.read true cs with
    | .error e => .error e
    | .ok host => .ok (if host = .name "localhost".toList then none else some host)

/-- Reads what follows the scheme of a file's URL. -/
def readFile (scheme : List Char) (cs : List Char) : Except UrlFault Url :=
  let located (host : Option Host) (cs : List Char) : Url :=
    build scheme true (fun front => .path host none (readPath true front)) cs
  let isSlash (c : Char) : Bool := c == '/' || c == '\\'
  match cs with
  | a :: b :: rest =>
    if isSlash a && isSlash b then
      let text := rest.takeWhile fun c => !endsAuthority true c
      match fileHost text with
      | .error e => .error e
      | .ok host =>
        let isDrive := text.length = 2 ∧ Path.startsWithDrive text
        .ok (located host (if isDrive then rest else rest.drop text.length))
    else .ok (located none cs)
  | cs => .ok (located none cs)

/-- The URL that a text is. -/
def readChars (text : List Char) : Except UrlFault Url :=
  match splitScheme (clean text) with
  | none => .error .noScheme
  | some (scheme, rest) =>
    match kindOf scheme with
    | .known =>
      readAuthority scheme true (rest.dropWhile fun c => c == '/' || c == '\\')
    | .file => readFile scheme rest
    | .other =>
      match rest with
      | '/' :: '/' :: rest => readAuthority scheme false rest
      | '/' :: _ =>
        .ok (build scheme false (fun front => .path none none (readPath false front)) rest)
      | rest => .ok (build scheme false (fun front => .unread (percentEncode [] front)) rest)

def read (s : String) : Except UrlFault Url := readChars s.toList

end PortShare.Url
