import Gatehouse.Codec.Uuid
import Gatehouse.Http.Wire
import Gatehouse.Startup.Boot
import Std.Async.DNS
import Std.Async.TCP
import Std.Sync.Mutex
import Std.Time

/-!
The program. It starts from the variables and files it finds, prints what the log shows, and answers
one request on each connection until it is stopped. It speaks to no database and to no Redis itself.
-/
namespace Gatehouse.Program

open Std.Async

/-- A service with the process's own counters. -/
abbrev Front := Service RateLimit.MemoryStore

/-- The names of variables that the program itself asks for. -/
def ownVariables : List String :=
  ["CONFIG_PATH", "REDIS_URL", "DATABASE_URL", "JWT_SECRET", "RUST_LOG"]

/-- The words of a text, among which are the names of all variables that it mentions. -/
def words (text : String) : List String :=
  (text.splitToList fun c => !(c.isAlphanum || c = '_' || c = '.')).filter (· ≠ "")

/-- The variables that matter: the program's own, and those that its file of variables mentions. -/
def environment (settings : Option Bytes) : IO Environment := do
  let mentioned := match settings with
    | some file => words (Utf8.decodeLossy file)
    | none => []
  (ownVariables ++ mentioned).eraseDups.filterMapM fun name => do
    return (← IO.getEnv name).map fun value => (name, value)

/-- Reads a file as far as it can be read. -/
def fileState (path : String) : IO ConfigSource.FileState := do
  match ← EIO.toBaseIO ( IO.FS.readBinFile path) with
  | .ok bytes => return .contents bytes.toList
  | .error (.noFileOrDirectory ..) => return .absent
  | .error error => return .unreadable (toString error)

/-- A host and a port, split at the last colon. -/
def hostAndPort (address : String) : Option (String × UInt16) := do
  let parts := address.splitOn ":"
  let port ← (Numeral.unsigned? 65535 (parts.getLast?.getD "").toList)
  if parts.length < 2 then none else some (":".intercalate parts.dropLast, port.toUInt16)

/-- Listens on an address, or says why it cannot. -/
def listen (place : IO.Ref (Option TCP.Socket.Server)) (address : String) :
    IO (Except String Unit) := do
  match checkListenAddress address, hostAndPort address with
  | .error reason, _ => return .error reason
  | .ok (), none => return .error "invalid socket address"
  | .ok (), some (host, port) =>
    let attempt : IO Unit := do
      let found ← (DNS.getAddrInfo host (toString port)).block
      let some ip := found[0]? | throw (IO.userError "no address found")
      let server ← TCP.Socket.Server.mk
      server.bind (match ip with
        | .v4 addr => .v4 ⟨addr, port⟩
        | .v6 addr => .v6 ⟨addr, port⟩)
      server.listen 1024
      place.set (some server)
    match ← EIO.toBaseIO attempt with
    | .ok () => return .ok ()
    | .error error => return .error (toString error)

/-- The attempts of this program. -/
def reach (place : IO.Ref (Option TCP.Socket.Server)) : Reach IO :=
  { (Reach.alone : Reach IO) with listen := listen place }

/-- The address of a peer. -/
def peerOf (address : Std.Net.SocketAddress) : SocketAddress :=
  match address with
  | .v4 v4 => .v4 (v4.addr.octets.toList.map (·.toNat)) v4.port.toNat
  | .v6 v6 => .v6 (v6.addr.segments.toList.map (·.toNat)) 0 v6.port.toNat

/-- Both clocks now. -/
def clock : IO Clock := do
  let now ← Std.Time.Timestamp.now
  return .running now.toNanosecondsSinceUnixEpoch.val (← IO.monoNanosNow)

/-- Prints log lines. -/
def say (lines : List LogLine) : IO Unit := do
  for line in lines do
    IO.println line.text
  (← IO.getStdout).flush

/-- Answers a request in the world that all requests share. As nothing is compressed here, what a
client would accept is not looked at. -/
def answer (front : Front) (filter : List LogFilter.Directive)
    (shared : Std.Mutex (World RateLimit.MemoryStore)) (request : Request) : IO Response := do
  let freshId := Uuid.ofRandom (← IO.getRandomBytes 16).toList
  let now ← clock
  let request := { request with headers := request.headers.erase "accept-encoding" }
  let (outcome, events) ← shared.atomically do
    let world ← get
    let (outcome, world) := Run.perform (front.handle (Utf8.encode freshId) request)
      { world with clock := now, deadline := none, journal := .empty }
    set world
    return (outcome, world.journal.events)
  say ((events.map fun event => ⟨Startup.mainTarget, event⟩).filter (LogFilter.shows filter))
  match outcome with
  | .ok response => return response
  | .error _ => return .ofStatus 500

/-- Reads one request from a connection. -/
partial def receive (client : TCP.Socket.Client) (peer : Option SocketAddress) (soFar : Bytes) :
    Async Wire.Arrival := do
  match Wire.arrival soFar peer with
  | .incomplete =>
    match ← client.recv? 65536 with
    | some bytes => receive client peer (soFar ++ bytes.toList)
    | none => return .malformed
  | arrival => return arrival

/-- Serves one connection. -/
def serve (respond : Request → IO Response) (client : TCP.Socket.Client) : Async Unit := do
  let peer := match ← EIO.toBaseIO client.getPeerName with
    | .ok address => some (peerOf address)
    | .error _ => none
  let response ← match ← receive client peer [] with
    | .complete request => respond request
    | _ => pure (.ofStatus 400)
  client.send (ByteArray.mk (Wire.write response).toArray)
  client.shutdown

/-- Takes connections as they come. -/
partial def acceptAll (server : TCP.Socket.Server) (respond : Request → IO Response) :
    Async Unit := do
  let client ← server.accept
  background (serve respond client)
  acceptAll server respond

/-- Runs a service that has been started. -/
def run (config : AppConfig) (filter : List LogFilter.Directive) (server : TCP.Socket.Server) :
    IO Unit := do
  match (Service.build config.server config.tokens : Except BuildDefect Front) with
  | .error defect => IO.eprintln defect.message
  | .ok front =>
    let shared ← Std.Mutex.new (World.start 0 RateLimit.MemoryStore.empty)
    (acceptAll server (answer front filter shared)).block

end Gatehouse.Program

open Gatehouse in
/-- Starts the program and serves until it is stopped. -/
def main : IO UInt32 := do
  let settings := match ← Program.fileState ".env" with
    | .contents bytes => some bytes
    | _ => none
  let directory := match ← EIO.toBaseIO IO.currentDir with
    | .ok path => .ok path.toString
    | .error error => .error (toString error)
  let place ← IO.mkRef none
  let report ← Startup.run (Program.reach place) directory settings Program.fileState
    (← Program.environment settings)
  Program.say report.log
  match report.ending, ← place.get with
  | .ready config filter, some server =>
    Program.run config filter server
    return 0
  | ending, _ =>
    IO.eprint ending.text
    return ending.exitCode.toUInt32
