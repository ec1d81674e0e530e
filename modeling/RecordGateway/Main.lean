import RecordGateway.Service
import Std.Async.Signal
import Std.Http.Server

/-!
# The program

Starts the service with the arguments and the environment of the process, serves HTTP until it is
interrupted, and leaves with the status of the service.  Records are kept in memory as long as the
program runs; the file of the database is only made.
-/

namespace RecordGateway.Program

open Std.Async

/-! ## Surroundings -/

/-- The content of a file, if it can be read. -/
def readFile? (name : String) : IO (Option String) :=
  try some <$> IO.FS.readFile name
  catch _ => return none

/-- Is there a file or a directory of this name? -/
def fileExists (name : String) : IO Bool :=
  try
    discard <| IO.FS.Handle.mk name .read
    return true
  catch _ => return false

/-- The variables of these names that the environment of the process has. -/
def readEnvironment (names : List String) : IO Environment :=
  names.filterMapM fun name ↦ return (← IO.getEnv name).map (name, ·)

/-- What the process finds where it is started. -/
def surroundings (args : List String) : IO Surroundings := do
  let envFile ← readFile? EnvFile.name
  let environment ← readEnvironment
    (Setting.all.map (·.variableName) ++ EnvFile.mentioned (envFile.getD ""))
  let around : Surroundings := { environment, envFile, reachable := true }
  let location := Service.location? args around
  let present ← (location.bind Database.Files.pathOf?).toList.filterM fun path ↦ fileExists path
  let directories ← (location.bind Database.Files.placeOf?).toList.filterMapM fun (directory, _) ↦
    return if ← fileExists (if directory = "" then "." else directory) then some directory else none
  return { around with files := { present, directories } }

/-! ## Requests and responses -/

/-- Reads a body up to its end, its limit or its time, and tells how long that took. -/
partial def readBody (since : Nat) (timer : Sleep) (bytes : ByteArray)
    (stream : Std.Http.Body.Stream) : Async Http.Body := do
  if Http.bodyLimit < bytes.size then
    return { bytes := bytes.toList, arrival := (← IO.monoMsNow) - since }
  let event ← Selectable.one #[
    .case stream.recvSelector fun chunk ↦ return some chunk,
    .case timer.selector fun _ ↦ return none]
  match event with
  | none => return { bytes := bytes.toList, ending := .stalled }
  | some none => return { bytes := bytes.toList, arrival := (← IO.monoMsNow) - since }
  | some (some chunk) => readBody since timer (bytes ++ chunk.data) stream

/-- The head of a request, with a body that is still to come. -/
def requestOf (head : Std.Http.Request.Head) : Http.Request where
  method := toString head.method
  target := toString head.uri
  headers := head.headers.toList.map fun (name, value) ↦
    ⟨name.value, value.value.toUTF8.toList⟩
  body := { bytes := [], ending := .stalled }

/-- A response as it is sent. -/
def sendable (r : Http.Response) : Async (Std.Http.Response Std.Http.Body.Any) := do
  let status := (Std.Http.Status.ofCode none r.status.toUInt16).getD .internalServerError
  let given := [("allow", r.allow), ("content-type", r.contentType),
    ("www-authenticate", r.challenge)]
  let headers := given.foldl (fun h (name, value) ↦
    (value.bind fun v ↦ h.insert? name v).getD h) Std.Http.Headers.empty
  let builder := (Std.Http.Response.withStatus status).headers headers
  let sent ← builder.fromBytes r.body.toUTF8
  return { sent with body := Std.Http.Body.Any.ofBody sent.body }

/-- Answers a request by the service. -/
def answer (service : Std.Mutex Service) (request : Std.Http.Request Std.Http.Body.Stream) :
    ContextAsync (Std.Http.Response Std.Http.Body.Any) := do
  let r := requestOf request.line
  let reads ← service.atomically do return (← get).readsBody r
  let since ← IO.monoMsNow
  let timer ← Sleep.mk (Std.Time.Millisecond.Offset.ofNat Http.requestTimeout)
  let body ← if reads then readBody since timer .empty request.body else pure r.body
  let reply ← service.atomically do
    let (reply, s) := (← get).request { r with body }
    set s
    return reply
  match reply with
  | .refused => sendable { status := 503 }
  | .response r => sendable r

/-! ## Running -/

/-- The address of an endpoint. -/
def socketAddress (e : Endpoint) : Std.Net.SocketAddress :=
  match e.host with
  | .v4 a =>
    let octet (k : Nat) : UInt8 := (a / Nat.pow 256 k).toUInt8
    .v4 ⟨.ofParts (octet 3) (octet 2) (octet 1) (octet 0), e.port.toUInt16⟩
  | .v6 gs =>
    let segment (k : Nat) : UInt16 := (gs.getD k 0).toUInt16
    .v6 ⟨⟨Vector.ofFn fun k ↦ segment k⟩, e.port.toUInt16⟩

/-- Serves until the process is interrupted. -/
def serve (address : Std.Net.SocketAddress) (service : Std.Mutex Service) : Async Unit := do
  let interrupted ← Signal.Waiter.mk .sigint false
  let server ← Std.Http.Server.serve address (Std.Http.Server.Handler.ofFn (answer service))
    { serverName := none }
  discard <| await (← interrupted.wait)
  server.shutdown
  let grace ← Selector.sleep (Std.Time.Millisecond.Offset.ofNat Network.shutdownGrace)
  Selectable.one #[
    .case server.waitShutdownSelector fun _ ↦ return (),
    .case grace fun _ ↦ return ()]
  service.atomically (modify (·.stop))

/-- Tells why the service did not start. -/
def fail (e : StartError) : IO UInt32 := do
  if e.status = 0 then IO.println e.message else IO.eprintln e.message
  return e.status.toUInt32

/-- Runs the program. -/
def run (args : List String) : IO UInt32 := do
  let around ← surroundings args
  let (started, files) := Service.start args around
  for path in files.present do
    unless around.allFiles.present.contains path do IO.FS.writeFile path ""
  match started with
  | .error e => fail e
  | .ok service =>
    let listen := service.settings.listen
    match Endpoint.parse listen with
    | .error e => fail (.listener ⟨listen, e⟩)
    | .ok endpoint =>
      try
        (serve (socketAddress endpoint) (← Std.Mutex.new service)).block
        return 0
      catch _ => fail (.listener ⟨listen, .inUse⟩)

end RecordGateway.Program

def main (args : List String) : IO UInt32 := RecordGateway.Program.run args
