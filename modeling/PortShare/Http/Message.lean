import PortShare.Http.Exchange

/-!
Requests and replies as bytes on a connection. A reply is read again from its first byte each
time more of it has come, until it is complete or no more can come; the place that it refers to is
made out from the address that was asked. -/

namespace PortShare.Http

def lineEnd : List Char := ['\r', '\n']

/-- The bytes of a request. The connection is of no use after it. -/
def Request.bytes (r : Request) : Bytes :=
  let body := Utf8.bytes (r.body.getD "")
  let host := String.ofList (Url.authority r.address.scheme r.address.host r.address.port)
  let fields := [("host", host), ("accept", "*/*"), ("connection", "close")]
    ++ (r.referer.map fun url => ("referer", url)).toList
  let bodyFields := match r.contentType with
    | some kind => [("content-type", kind), ("content-length", Numeral.decimal body.length)]
    | none => []
  let first := r.method.name ++ " " ++ r.route.target ++ " HTTP/1.1"
  let lines := first :: (fields ++ bodyFields).map fun (name, value) => name ++ ": " ++ value
  Utf8.encode (lines.flatMap (fun line => line.toList ++ lineEnd) ++ lineEnd) ++ body

namespace Place

/-- May the character stand in a reference to a place? -/
def isReferenceChar (c : Char) : Bool :=
  0x20 < c.toNat && c.toNat < 0x7f && !"\"<>\\^\x60\x7b|\x7d".toList.contains c

/-- The whole URL that a reference means at an address. -/
def whole (asked : Address) (reference : List Char) : List Char :=
  match Url.splitScheme reference, reference with
  | some _, _ => reference
  | none, '/' :: '/' :: _ => asked.scheme ++ ':' :: reference
  | none, '/' :: _ => asked.origin ++ reference
  | none, '?' :: _ => asked.origin ++ asked.path ++ reference
  | none, _ => asked.origin ++ Url.Path.upToSlash asked.path ++ reference

def ofUrl (url : Url) : Place :=
  match url.location with
  | .path (some host) port path =>
    if url.scheme = "http".toList then .other ⟨false, host, port, path, url.query⟩
    else if url.scheme = "https".toList then .other ⟨true, host, port, path, url.query⟩
    else .foreign
  | _ => .foreign

/-- The place that a reference means, if it is one; what is behind a hash sign does not count. -/
def ofReference? (asked : Address) (reference : List Char) : Option Place :=
  let reference := reference.takeWhile (· != '#')
  if reference.isEmpty then some .same
  else if reference.all isReferenceChar then
    match Url.readChars (whole asked reference) with
    | .ok url => some (ofUrl url)
    | .error _ => some .foreign
  else none

end Place

namespace Message

def newline : UInt8 := 10

/-- The first line of some bytes, without its end, and what follows it. -/
def line? (bs : Bytes) : Option (List Char × Bytes) :=
  let line := bs.takeWhile (· != newline)
  match bs.drop line.length with
  | [] => none
  | _ :: rest => some ((Utf8.decodeLossy line).filter (· != '\r'), rest)

@[grind →] theorem length_of_line {bs rest : Bytes} {line : List Char}
    (h : line? bs = some (line, rest)) : rest.length < bs.length := by
  unfold line? at h
  grind [List.length_drop]

/-- The lines up to an empty one, and what follows it. -/
def head? (bs : Bytes) : Option (List (List Char) × Bytes) :=
  match h : line? bs with
  | none => none
  | some ([], rest) => some ([], rest)
  | some (line, rest) =>
    have := length_of_line h
    (head? rest).map fun (lines, rest) => (line :: lines, rest)
termination_by bs.length

def lower (cs : List Char) : List Char := cs.map Char.toLower

def trim (cs : List Char) : List Char :=
  ((cs.dropWhile (· == ' ')).reverse.dropWhile (· == ' ')).reverse

/-- The value of a field, by its name in small letters. -/
def field? (name : String) (lines : List (List Char)) : Option (List Char) :=
  lines.findSome? fun line =>
    let start := line.takeWhile (· != ':')
    if lower start = name.toList then some (trim (line.drop (start.length + 1))) else none

/-- The number of three digits behind the first blank of the first line. -/
def status? (line : List Char) : Option Nat :=
  Numeral.value? 10 (((line.dropWhile (· != ' ')).drop 1).take 3)

/-- The bytes of a body in pieces, each behind its length, and whether the last piece has come. -/
def pieces (bs : Bytes) : Bytes × Bool :=
  match h : line? bs with
  | none => ([], false)
  | some (line, rest) =>
    have := length_of_line h
    match Numeral.value? 16 (line.takeWhile (Numeral.isDigitIn 16)) with
    | none => ([], false)
    | some 0 => ([], true)
    | some (n + 1) =>
      let (more, complete) := pieces (rest.drop (n + 3))
      (rest.take (n + 1) ++ more, complete)
termination_by bs.length
decreasing_by grind [List.length_drop]

/-- The body behind a head, and whether all of it has come. -/
def body (lines : List (List Char)) (closed : Bool) (bs : Bytes) : Bytes × Bool :=
  if (field? "transfer-encoding" lines).any fun v => lower v == "chunked".toList then pieces bs
  else
    match (field? "content-length" lines).bind (Numeral.value? 10) with
    | some n => (bs.take n, n ≤ bs.length)
    | none => (bs, closed)

@[grind →] theorem length_of_head {bs rest : Bytes} {lines : List (List Char)}
    (h : head? bs = some (lines, rest)) : rest.length < bs.length := by
  fun_induction head? bs generalizing lines <;> grind [Option.map_eq_some_iff]

/-- The reply to a request at an address in some bytes; none if more bytes are needed and can come.
Messages that only announce it are passed over. -/
def reply? (asked : Address) (closed : Bool) (bs : Bytes) : Option Reply :=
  match h : head? bs with
  | some (first :: lines, rest) =>
    match status? first with
    | some status =>
      if isInterim status then
        have := length_of_head h
        reply? asked closed rest
      else
        let (body, complete) := body lines closed rest
        let place := (field? "location" lines).bind (Place.ofReference? asked)
        if isBodiless status || complete || closed then
          some (.ofMessage status place body complete)
        else none
    | none => some .unanswered
  | some ([], _) => some .unanswered
  | none => if closed then some .unanswered else none
termination_by bs.length

end Message

end PortShare.Http
