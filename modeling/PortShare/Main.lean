import PortShare.Http.Message
import PortShare.Program
import Std.Async.DNS
import Std.Async.Signal
import Std.Async.System
import Std.Async.TCP
import Std.Async.Timer

/-!
The program in its surroundings. The run itself is a function of the replies; here they are
fetched, one for each request that the run makes with the replies it has been given. -/

namespace PortShare.Main

open Std Async

/-- What came of waiting. -/
inductive Event where
  | bytes (bs : Option ByteArray)
  | timeout
  | interrupt

def pieceSize : UInt64 := 65536

/-- Reads from a connection until there is a reply to a request at that address. -/
partial def receive (asked : Http.Address) (socket : TCP.Socket.Client) (limit : Sleep)
    (stop : Signal.Waiter) (before : Bytes) : Async Http.Reply := do
  let event ← Selectable.one #[
    .case (socket.recvSelector pieceSize) fun bs => pure (Event.bytes bs),
    .case limit.selector fun () => pure .timeout,
    .case stop.selector fun () => pure .interrupt]
  match event with
  | .timeout => return .unanswered
  | .interrupt => return .interrupted
  | .bytes piece =>
    let bytes := before ++ (piece.map ByteArray.toList).getD []
    match Http.Message.reply? asked piece.isNone bytes with
    | some reply => return reply
    | none => receive asked socket limit stop bytes

/-- Where a peer listens; this program knows no TLS and makes no tunnels. -/
def listener (route : Http.Route) : Async (Option Net.SocketAddress) := do
  if route.peer.secure || route.tunnel.isSome then return none
  let port := route.peer.port.toUInt16
  let found ← DNS.getAddrInfo route.peer.host ""
  return found[0]?.map fun
    | .v4 address => .v4 ⟨address, port⟩
    | .v6 address => .v6 ⟨address, port⟩

/-- Sends a request and waits for the reply as long as there is time for it. -/
def ask (r : Http.Request) : Async Http.Reply := do
  try
    let some address ← listener r.route | return .unanswered
    let socket ← TCP.Socket.Client.mk
    socket.connect address
    socket.send (ByteArray.mk r.bytes.toArray)
    let limit ← Sleep.mk (.ofNat (r.timeout.toNat * 1000))
    receive r.address socket limit (← Signal.Waiter.mk .sigint false) []
  catch _ => return .unanswered

/-- Runs the program again and again, each time with one more reply. -/
partial def converse (run : List Http.Reply → Finished) (replies : List Http.Reply) :
    Async Finished := do
  let finished := run replies
  match finished.requests[replies.length]? with
  | some r => converse run (replies ++ [← ask r])
  | none => return finished

def environment : IO Variables := do
  return (← Internal.UV.System.osEnviron).toList

/-- The system's number for a folder where a file is wanted. -/
def isDirectory : UInt32 := 21

def fault : IO.Error → FileFault
  | .noFileOrDirectory .. => .missing
  | .inappropriateType _ code _ => if code = isDirectory then .folder else .insideFile
  | .permissionDenied .. => .forbidden
  | _ => .missing

/-- What the file at a path holds, as the answer to every question for a file. -/
def readFile (path : String) : IO (String → Except FileFault Bytes) := do
  try
    let content ← IO.FS.readBinFile path
    return fun _ => .ok content.toList
  catch e => return fun _ => .error (fault e)

/-- A line of the log, without the time. -/
def shownEntry (json : Bool) (e : Log.Entry) : String :=
  if json then
    (Json.Value.object [("level", .text e.level.name),
      ("fields", .object [("message", .text e.message)])]).render
  else e.level.name ++ " " ++ e.message

def shownLine (json : Bool) : Log.Line → String
  | .entry e => shownEntry json e
  | .text s => s

end PortShare.Main

open PortShare PortShare.Main in
def main (arguments : List String) : IO UInt32 := do
  let vars ← environment
  let invocation := CommandLine.read vars arguments
  let path := invocation.toOption.bind fun i => i.config
  let around : Surroundings := ⟨vars, ← readFile (path.getD "")⟩
  let json := (invocation.toOption.map fun i => i.logJson).getD false
  let finished ← (converse (Program.run .plain arguments around) []).block
  for line in finished.remarks do
    IO.eprintln (shownLine json line)
  (← IO.getStdout).write (ByteArray.mk finished.output.toArray)
  return finished.exitCode.toUInt32
