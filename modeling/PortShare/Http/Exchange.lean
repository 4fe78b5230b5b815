import PortShare.Http.Route
import PortShare.Log
import PortShare.Text.Utf8

/-! Requests, the replies to them, and the course of an exchange. -/

namespace PortShare.Http

inductive Method where
  | get | post | put | delete
  deriving DecidableEq, Repr

def Method.name : Method → String
  | .get => "GET"
  | .post => "POST"
  | .put => "PUT"
  | .delete => "DELETE"

/-- A request as it is handed over to be sent. A body is JSON. Whether the other end can be reached
is not known beforehand: if it cannot, no reply comes. -/
structure Request where
  method : Method
  address : Address
  route : Route
  /-- The URL at which the client was referred to this address. -/
  referer : Option String
  body : Option String
  /-- How many seconds there are for the reply, at most. -/
  timeout : UInt64
  deriving DecidableEq, Repr

def Request.contentType (r : Request) : Option String := r.body.map fun _ => "application/json"

/-- How a request is made again at the place that its reply refers to. -/
inductive Redirection where
  /-- Asking for data, if it was to create something; otherwise as it was (301 and 302). -/
  | moved
  /-- Asking for data (303). -/
  | elsewhere
  /-- As it was (307 and 308). -/
  | kept
  deriving DecidableEq, Repr

def Redirection.ofStatus? : Nat → Option Redirection
  | 301 | 302 => some .moved
  | 303 => some .elsewhere
  | 307 | 308 => some .kept
  | _ => none

/-- The place that a reply refers to, made out from the address that was asked. -/
inductive Place where
  | other (address : Address)
  /-- The same address, with its query. -/
  | same
  /-- Nothing that HTTP is spoken to. -/
  | foreign
  deriving DecidableEq, Repr

/-- What comes back for one request. -/
inductive Reply where
  /-- A status and the bytes of the body that arrived, which may not be all of them. -/
  | response (status : Nat) (body : Bytes) (complete : Bool)
  /-- The request is to be made again at another place. -/
  | redirect (how : Redirection) (place : Place)
  /-- There was no connection, or it was closed, or nothing came in time. -/
  | unanswered
  /-- The user stopped the program while it waited. -/
  | interrupted
  deriving DecidableEq, Repr

/-- A message with this status says that the reply is still to come. -/
def isInterim (status : Nat) : Bool := 100 ≤ status && status < 200 && status != 101

/-- A message with this status ends with its head. -/
def isBodiless (status : Nat) : Bool := status == 101 || status == 204 || status == 304

/-- Is the number one that a message can have? -/
def isStatus (n : Nat) : Bool := 100 ≤ n && n ≤ 999

/-- The reply that the last message on a connection is, which may refer to a place. -/
def Reply.ofMessage (status : Nat) (place : Option Place) (body : Bytes) (complete : Bool) :
    Reply :=
  if !isStatus status || isInterim status then .unanswered
  else
    match Redirection.ofStatus? status, place with
    | some how, some place => .redirect how place
    | _, _ => if isBodiless status then .response status [] true else .response status body complete

/-- The replies that are still to come, and what has been sent and noted down so far. -/
structure Exchange where
  replies : List Reply
  requests : List Request
  notes : List Log.Entry

def Exchange.start (replies : List Reply) : Exchange := ⟨replies, [], []⟩

/-- Sends a request and takes the next reply; once there are none it is an empty 500. -/
def Exchange.send (r : Request) (x : Exchange) : Reply × Exchange :=
  let x := { x with requests := x.requests ++ [r] }
  match x.replies with
  | [] => (.response 500 [] true, x)
  | reply :: replies => (reply, { x with replies })

def Exchange.note (entry : Log.Entry) (x : Exchange) : Exchange :=
  { x with notes := x.notes ++ [entry] }

def isSuccess (status : Nat) : Bool := 200 ≤ status && status < 300

/-- The words that go with a status. -/
def reason : Nat → String
  | 100 => "Continue"
  | 101 => "Switching Protocols"
  | 102 => "Processing"
  | 103 => "Early Hints"
  | 200 => "OK"
  | 201 => "Created"
  | 202 => "Accepted"
  | 203 => "Non Authoritative Information"
  | 204 => "No Content"
  | 205 => "Reset Content"
  | 206 => "Partial Content"
  | 207 => "Multi-Status"
  | 208 => "Already Reported"
  | 226 => "IM Used"
  | 300 => "Multiple Choices"
  | 301 => "Moved Permanently"
  | 302 => "Found"
  | 303 => "See Other"
  | 304 => "Not Modified"
  | 305 => "Use Proxy"
  | 307 => "Temporary Redirect"
  | 308 => "Permanent Redirect"
  | 400 => "Bad Request"
  | 401 => "Unauthorized"
  | 402 => "Payment Required"
  | 403 => "Forbidden"
  | 404 => "Not Found"
  | 405 => "Method Not Allowed"
  | 406 => "Not Acceptable"
  | 407 => "Proxy Authentication Required"
  | 408 => "Request Timeout"
  | 409 => "Conflict"
  | 410 => "Gone"
  | 411 => "Length Required"
  | 412 => "Precondition Failed"
  | 413 => "Payload Too Large"
  | 414 => "URI Too Long"
  | 415 => "Unsupported Media Type"
  | 416 => "Range Not Satisfiable"
  | 417 => "Expectation Failed"
  | 418 => "I'm a teapot"
  | 421 => "Misdirected Request"
  | 422 => "Unprocessable Entity"
  | 423 => "Locked"
  | 424 => "Failed Dependency"
  | 425 => "Too Early"
  | 426 => "Upgrade Required"
  | 428 => "Precondition Required"
  | 429 => "Too Many Requests"
  | 431 => "Request Header Fields Too Large"
  | 451 => "Unavailable For Legal Reasons"
  | 500 => "Internal Server Error"
  | 501 => "Not Implemented"
  | 502 => "Bad Gateway"
  | 503 => "Service Unavailable"
  | 504 => "Gateway Timeout"
  | 505 => "HTTP Version Not Supported"
  | 506 => "Variant Also Negotiates"
  | 507 => "Insufficient Storage"
  | 508 => "Loop Detected"
  | 510 => "Not Extended"
  | 511 => "Network Authentication Required"
  | _ => "<unknown status code>"

def statusText (status : Nat) : String := Numeral.decimal status ++ " " ++ reason status

end PortShare.Http
