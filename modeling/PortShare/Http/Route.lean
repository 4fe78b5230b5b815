import PortShare.Http.Proxy
import PortShare.Url.Origin

/-! Addresses of requests, and the way that a request to an address takes: straight to its host, or
to a proxy, or through a tunnel that a proxy makes. -/

namespace PortShare.Http

/-- Where a request is to be answered: a host, over TLS or in the clear, and a path and a query
there. -/
structure Address where
  secure : Bool
  host : Url.Host
  port : Option Nat
  path : List Char
  query : Option (List Char)
  deriving DecidableEq, Repr

namespace Address

def scheme (a : Address) : List Char := if a.secure then "https".toList else "http".toList

/-- The path and the query as they are told to the host. -/
def resource (a : Address) : List Char :=
  a.path ++ match a.query with
    | some q => '?' :: q
    | none => []

def origin (a : Address) : List Char := Url.origin a.scheme a.host a.port

def text (a : Address) : List Char := a.origin ++ a.resource

def portNumber (a : Address) : Nat := a.port.getD (if a.secure then 443 else 80)

end Address

/-- The other end of a connection. -/
structure Peer where
  secure : Bool
  host : String
  port : Nat
  deriving DecidableEq, Repr

/-- A connection that a proxy is asked for, by a host and a port. -/
structure Tunnel where
  proxy : Peer
  target : String
  deriving DecidableEq, Repr

/-- The way of a request: whom it is told to, perhaps through a tunnel, and what it names there. -/
structure Route where
  tunnel : Option Tunnel
  peer : Peer
  target : String
  deriving DecidableEq, Repr

def Proxy.peer? (p : Proxy) : Option Peer :=
  match p.speech with
  | .clear => some ⟨false, String.ofList p.host, p.port⟩
  | .secret => some ⟨true, String.ofList p.host, p.port⟩
  | .foreign => none

/-- The way to an address, if there is one. A proxy is told the whole URL, or makes a tunnel if the
host is to be spoken to over TLS. -/
def Proxies.route? (ps : Proxies) (a : Address) : Option Route :=
  let host : Peer := ⟨a.secure, String.ofList a.host.text, a.portNumber⟩
  match ps.find? a.secure a.host with
  | none => some ⟨none, host, String.ofList a.resource⟩
  | some proxy => proxy.peer?.map fun peer =>
    if a.secure then
      let target := a.host.text ++ ':' :: Numeral.digits 10 a.portNumber
      ⟨some ⟨peer, String.ofList target⟩, host, String.ofList a.resource⟩
    else ⟨none, peer, String.ofList a.text⟩

end PortShare.Http
