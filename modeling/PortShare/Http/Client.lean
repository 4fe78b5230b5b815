import PortShare.Http.Exchange
import PortShare.Plan
import PortShare.Wire

/-!
The service over HTTP. Each call is one request to a URL below that of the service, with the
session token as the last pair of its query, and the reply decides the answer; a reply that refers
to another place has the request made again there. -/

namespace PortShare.Http

structure Client where
  base : Url
  token : String
  /-- How many seconds a call may take. -/
  timeout : UInt64
  proxies : Proxies := {}

namespace Client

def ofSettings (baseUrl token : String) (timeout : UInt64) (proxies : Proxies := {}) :
    Except Failure Client :=
  match Url.read baseUrl with
  | .ok base => .ok ⟨base, token, timeout, proxies⟩
  | .error fault =>
    .error (.configuration
      ("invalid service URL " ++ quote baseUrl ++ ": " ++ fault.describe))

/-- Where requests of one kind go. -/
structure Endpoint where
  path : List Char
  query : List Char
  deriving DecidableEq, Repr

def Endpoint.text (e : Endpoint) : List Char := e.path ++ '?' :: e.query

/-- A fragment with its sign, if there is one. -/
def fragmentText (fragment : Option (List Char)) : List Char :=
  match fragment with
  | some f => '#' :: f
  | none => []

/-- A URL whose text behind the scheme is not divided, as it is written. -/
def unreadText (url : Url) (text : List Char) : String :=
  let query := match url.query with
    | some q => '?' :: q
    | none => []
  String.ofList (url.scheme ++ ':' :: (text ++ query ++ fragmentText url.fragment))

/-- The segments added to the path of the service, and the token to its query. -/
def endpoint (client : Client) (segments : List String) : Except Failure Endpoint :=
  match client.base.location with
  | .unread text =>
    .error (.configuration
      ("service URL " ++ unreadText client.base text ++ " cannot be a base"))
  | .path _ _ path =>
    .ok {
      path := segments.foldl (fun p s => Url.Path.extend p s.toList) (Url.Path.trimmed path)
      query := Url.appendPair client.base.query "session_token".toList client.token.toList }

def environmentsEndpoint (client : Client) : Except Failure Endpoint :=
  client.endpoint ["api", "environments"]

/-- The endpoint of the devurls of an environment, or of one of them. -/
def devurlsEndpoint (client : Client) (environmentId : String) (urlId : Option String) :
    Except Failure Endpoint :=
  client.endpoint (["api", "environments", environmentId, "devurls"] ++ urlId.toList)

/-- A reply that came, with its body if all of it arrived. -/
structure Response where
  status : Nat
  body : Option Bytes

def isHttp (client : Client) : Bool := client.base.scheme == "http".toList

def isHttps (client : Client) : Bool := client.base.scheme == "https".toList

/-- The longest URL that can be sent. -/
def maxUrl : Nat := 65534

/-- The address of an endpoint, if a request can name its URL. The scheme must be one of those two,
there are characters that a host may have but a request cannot name, and it must not be too long. -/
def address? (client : Client) (endpoint : Endpoint) : Option Address :=
  match client.base.location with
  | .path (some host) port _ =>
    if (client.isHttp || client.isHttps)
        && !host.text.any (fun c => ['"', '\x60', '\x7b', '\x7d'].contains c)
        && (Url.origin client.base.scheme host port ++ endpoint.text
          ++ fragmentText client.base.fragment).length ≤ maxUrl then
      some ⟨client.isHttps, host, port, endpoint.path, some endpoint.query⟩
    else none
  | _ => none

/-- What is to be asked, and where. -/
structure Errand where
  method : Method
  address : Address
  referer : Option String
  body : Option String
  deriving DecidableEq, Repr

namespace Errand

/-- The URL that the next place is told of; a place in the clear is told of none that is not. -/
def refererFor (asked next : Address) : Option String :=
  if asked.secure && !next.secure then none else some (String.ofList asked.text)

/-- The errand at another place. -/
def moveTo (e : Errand) (how : Redirection) (next : Address) : Errand :=
  let asksForData : Bool :=
    match how with
    | .moved => e.method == .post
    | .elsewhere => true
    | .kept => false
  let referer := refererFor e.address next
  if asksForData then ⟨.get, next, referer, none⟩ else ⟨e.method, next, referer, e.body⟩

def redirect? (e : Errand) (how : Redirection) : Place → Option Errand
  | .other next => some (e.moveTo how next)
  | .same => some (e.moveTo how e.address)
  | .foreign => none

end Errand

/-- How often a request is made again because a reply refers to another place. -/
def maxRedirects : Nat := 10

/-- Sends a request, and sends it again wherever the replies refer to, but not more often than
that. -/
def perform (client : Client) (operation : String) :
    Nat → Errand → Exchange → Except Failure Response × Exchange
  | left, errand, x =>
    let failed (text : String) : Except Failure Response :=
      .error (.remoteUnavailable operation text)
    match client.proxies.route? errand.address with
    | none => (failed "error sending request", x)
    | some route =>
      let request : Request :=
        ⟨errand.method, errand.address, route, errand.referer, errand.body, client.timeout⟩
      match x.send request with
      | (.interrupted, x) => (.error .cancelled, x)
      | (.unanswered, x) => (failed "error sending request", x)
      | (.response status bytes complete, x) =>
        let entry := operation ++ " " ++ String.ofList errand.address.path ++ " -> "
          ++ statusText status
        (.ok ⟨status, if complete then some bytes else none⟩, x.note ⟨.debug, entry⟩)
      | (.redirect how place, x) =>
        match left, errand.redirect? how place with
        | 0, _ => (failed "error following redirect", x)
        | _ + 1, none => (failed "builder error", x)
        | left + 1, some errand => perform client operation left errand x

/-- Sends a request to an endpoint. -/
def send (client : Client) (operation : String) (method : Method) (endpoint : Endpoint)
    (body : Option String) (x : Exchange) : Except Failure Response × Exchange :=
  match client.address? endpoint with
  | none => (.error (.remoteUnavailable operation "builder error"), x)
  | some address => client.perform operation maxRedirects ⟨method, address, none, body⟩ x

/-- The service's own words in the body of a reply, if there are any. -/
def serviceMessage (body : Bytes) : Option String :=
  match Json.Value.read (Utf8.encode (Utf8.decodeLossy body)) with
  | .error _ => none
  | .ok v => (v.path? ["error", "msg"] <|> v.get? "message").bind Json.Value.text?

/-- The failure that a reply without success is. -/
def Response.failure (r : Response) (operation : String) : Failure :=
  let status := "non-success status code: " ++ Numeral.decimal r.status
  match r.body.bind serviceMessage with
  | some detail => .remoteUnavailable operation (status ++ ": " ++ detail)
  | none => .remoteUnavailable operation status

/-- What a reply to a request for data holds: it must be a whole body with status 200. -/
def Response.decode {α : Type} (r : Response) (operation : String)
    (read : Bytes → Except Json.Problem α) : Except Failure α :=
  if r.status = 200 then
    match r.body with
    | none => .error (.remoteUnavailable operation "error decoding response body")
    | some body =>
      match read body with
      | .ok a => .ok a
      | .error problem => .error (.malformed operation problem)
  else .error (r.failure operation)

/-- What a reply to a change says: any status of success will do, whatever the body. -/
def Response.accepted (r : Response) (operation : String) : Except Failure Unit :=
  if isSuccess r.status then .ok () else .error (r.failure operation)

/-- Sends the request of one call and judges the reply. -/
def request {α : Type} (client : Client) (operation : String) (method : Method)
    (endpoint : Except Failure Endpoint) (body : Option String)
    (judge : Response → Except Failure α) (x : Exchange) : Except Failure α × Exchange :=
  match endpoint with
  | .error e => (.error e, x)
  | .ok endpoint =>
    match client.send operation method endpoint body x with
    | (.error e, x) => (.error e, x)
    | (.ok response, x) => (judge response, x)

/-- The first environment of that name. -/
def pick (name : String) (found : List Environment) : Except Failure Environment :=
  match found.find? fun e => e.name == name with
  | some e => .ok e
  | none => .error (.environmentNotFound name)

def answer (client : Client) (call : Call) : Exchange → Except Failure call.Answer × Exchange :=
  let operation := call.operation
  match call with
  | .resolve name =>
    client.request operation .get client.environmentsEndpoint none fun r =>
      r.decode operation readEnvironments >>= pick name
  | .list environmentId =>
    client.request operation .get (client.devurlsEndpoint environmentId none) none fun r =>
      r.decode operation readDevUrls
  | .create environmentId m =>
    client.request operation .post (client.devurlsEndpoint environmentId none)
      (some m.toJson.render) fun r => r.accepted operation
  | .update environmentId urlId m =>
    client.request operation .put (client.devurlsEndpoint environmentId (some urlId))
      (some m.toJson.render) fun r => r.accepted operation
  | .delete environmentId urlId =>
    client.request operation .delete (client.devurlsEndpoint environmentId (some urlId)) none
      fun r => r.accepted operation

def service (client : Client) : Service Exchange := ⟨client.answer, Exchange.note⟩

end Client

end PortShare.Http
