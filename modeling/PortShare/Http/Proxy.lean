import PortShare.Settings.Variables
import PortShare.Text.Category
import PortShare.Url.Host

/-!
Proxies: servers that requests are handed to. Variables of the environment name the proxy for each
scheme, and the hosts that are asked without it. -/

namespace PortShare.Http

/-- How a proxy is spoken to: requests are handed to it in the clear or over TLS, or it takes none
as they are. -/
inductive Proxy.Speech where
  | clear | secret | foreign
  deriving DecidableEq, Repr

/-- A proxy by its address. -/
structure Proxy where
  speech : Proxy.Speech
  host : List Char
  port : Nat
  deriving DecidableEq, Repr

namespace Proxy

/-- May the character stand in the authority of an address? -/
def isAuthorityChar (c : Char) : Bool :=
  c.isAlphanum || "!$&'()*+,-.:;=@[]_~%".toList.contains c

/-- Is the text in front of a path the authority of an address: a user, a host and a port? -/
def isAuthority (cs : List Char) : Bool :=
  let behind := (cs.reverse.takeWhile (· != '@')).reverse
  let outside := (behind.reverse.takeWhile (· != ']')).reverse
  cs.all isAuthorityChar && !behind.isEmpty && !outside.contains '%' && outside.count ':' ≤ 1
    && cs.count '[' = cs.count ']' && cs.count '[' ≤ 1

/-- May the text stand behind an authority? -/
def isTail (cs : List Char) : Bool :=
  let path := cs.takeWhile fun c => c != '?' && c != '#'
  let query := (cs.drop path.length).takeWhile (· != '#')
  path.all (fun c => 0x20 < c.toNat && !(['<', '>', '\x60'].contains c))
    && query.all fun c => 0x20 < c.toNat && !(['"', '<', '>'].contains c)

/-- The schemes of proxies that do not take a request as it is. -/
def otherSchemes : List String := ["socks4", "socks4a", "socks5", "socks5h"]

/-- What the scheme of an address says, and the text behind it; without a scheme the proxy is spoken
to in the clear. -/
def splitScheme? (cs : List Char) : Option (Speech × List Char) :=
  let scheme := cs.takeWhile fun c => c != ':'
  match cs.drop scheme.length with
  | ':' :: '/' :: '/' :: rest =>
    let name := scheme.map Char.toLower
    if name = "http".toList then some (.clear, rest)
    else if name = "https".toList then some (.secret, rest)
    else if otherSchemes.contains (String.ofList scheme) then some (.foreign, rest)
    else none
  | _ => if cs.contains '/' ∨ cs.contains '?' ∨ cs.contains '#' then none else some (.clear, cs)

def Speech.defaultPort (s : Speech) : Nat := if s = .secret then 443 else 80

/-- The proxy that the value of a variable names. -/
def read? (s : String) : Option Proxy :=
  match splitScheme? s.toList with
  | none => none
  | some (speech, cs) =>
    let authority := cs.takeWhile fun c => c != '/' && c != '?' && c != '#'
    if isAuthority authority && isTail (cs.drop authority.length) then
      let address := (authority.reverse.takeWhile (· != '@')).reverse
      let port := (address.reverse.takeWhile (· != ':')).reverse
      if port.length = address.length then some ⟨speech, address, speech.defaultPort⟩
      else
        let host := address.take (address.length - port.length - 1)
        let number := (Numeral.value? 10 port).filter (· < 65536)
        some ⟨speech, host, number.getD speech.defaultPort⟩
    else none

end Proxy

/-- Hosts that are asked directly: a range of addresses, or a domain with all below it. -/
inductive Exemption where
  /-- The addresses of `size` bits that begin with the same `fixed` bits as this one. -/
  | addresses (size fixed address : Nat)
  | domain (name : List Char)
  deriving DecidableEq, Repr

namespace Exemption

/-- The number that groups of 16 bits are. -/
def combine (groups : List Nat) : Nat := groups.foldl (fun n g => n * 65536 + g) 0

/-- The number of bits of an address, and the address as a number. -/
def address? (cs : List Char) : Option (Nat × Nat) :=
  match Url.Host.dotted? cs, Url.Host.groups? cs with
  | some gs, _ => some (32, combine gs)
  | none, some gs => some (128, combine gs)
  | none, none => none

/-- What an entry of the list of exempted hosts says. -/
def read (cs : List Char) : Exemption :=
  let start := cs.takeWhile (· != '/')
  match address? start, cs.drop start.length with
  | some (size, n), [] => .addresses size size n
  | some (size, n), _ :: digits =>
    match Numeral.value? 10 digits with
    | some fixed => if fixed ≤ size then .addresses size fixed n else .domain cs
    | none => .domain cs
  | none, _ => .domain cs

def isInRange (size fixed address : Nat) (bits n : Nat) : Bool :=
  bits == size && n / Nat.pow 2 (size - fixed) == address / Nat.pow 2 (size - fixed)

/-- Is a host the domain, or below it? A point in front of the domain makes no difference. -/
def isWithin (domain host : List Char) : Bool :=
  let domain := domain.map Char.toLower
  let host := host.map Char.toLower
  if domain = host ∨ domain = '.' :: host then true
  else if domain.isSuffixOf host then
    domain.head? == some '.' || ('.' :: domain).isSuffixOf host
  else domain == ['*']

def covers (e : Exemption) (host : Url.Host) : Bool :=
  match e, host with
  | .addresses size fixed address, .number n => isInRange size fixed address 32 n
  | .addresses size fixed address, .groups gs =>
    isInRange size fixed address 128 (combine gs)
  | .domain name, .name host => isWithin name host
  | _, _ => false

end Exemption

/-- Which proxy requests of a scheme go through, and for which hosts they do not. -/
structure Proxies where
  http : Option Proxy := none
  https : Option Proxy := none
  exempt : List Exemption := []
  deriving DecidableEq, Repr

namespace Proxies

/-- The value of the first of some variables that is set. -/
def firstOf (vars : Variables) (names : List String) : String :=
  (names.findSome? vars.get?).getD ""

def trim (cs : List Char) : List Char :=
  ((cs.dropWhile Category.isWhiteSpace).reverse.dropWhile Category.isWhiteSpace).reverse

/-- The exempted hosts in a list with commas. -/
def readExempt (s : String) : List Exemption :=
  (((s.toList.splitOn ',').map trim).filter fun cs => !cs.isEmpty).map Exemption.read

/-- What the environment says. A program that answers a request itself, which a variable shows, uses
no proxy, for whoever sent that request could have set the others. -/
def ofVariables (vars : Variables) : Proxies :=
  if (vars.get? "REQUEST_METHOD").isSome then {}
  else
    let named (names : List String) : Option Proxy := Proxy.read? (firstOf vars names)
    let all := named ["ALL_PROXY", "all_proxy"]
    { http := named ["HTTP_PROXY", "http_proxy"] <|> all
      https := named ["HTTPS_PROXY", "https_proxy"] <|> all
      exempt := readExempt (firstOf vars ["NO_PROXY", "no_proxy"]) }

/-- The proxy for requests to a host, over TLS or not. -/
def find? (ps : Proxies) (secure : Bool) (host : Url.Host) : Option Proxy :=
  if ps.exempt.any fun e => e.covers host then none else if secure then ps.https else ps.http

end Proxies

end PortShare.Http
