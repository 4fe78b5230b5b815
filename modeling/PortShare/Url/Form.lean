import PortShare.Url.Percent

/-! Queries as lists of names and values. A space is written as a plus. -/

namespace PortShare.Url

def isFormPlain (c : Char) : Bool :=
  c.isAlphanum || c == '*' || c == '-' || c == '.' || c == '_'

def formEncode (cs : List Char) : List Char :=
  cs.flatMap fun c =>
    if c = ' ' then ['+']
    else if isFormPlain c then [c]
    else (Utf8.encodeChar c).flatMap percentByte

def formDecode (cs : List Char) : List Char :=
  Utf8.decodeLossy (percentDecode (cs.map fun c => if c = '+' then ' ' else c))

/-- Adds a pair to a query, if there is one. -/
def appendPair (query : Option (List Char)) (name value : List Char) : List Char :=
  let before := match query with
    | none | some [] => []
    | some q => q ++ ['&']
  before ++ formEncode name ++ ['='] ++ formEncode value

/-- The pairs of a query; empty parts are passed over, and a part without a sign has no value. -/
def queryPairs (query : List Char) : List (List Char × List Char) :=
  ((query.splitOn '&').filter fun part => !part.isEmpty).map fun part =>
    (formDecode (part.takeWhile (· != '=')), formDecode ((part.dropWhile (· != '=')).drop 1))

end PortShare.Url
