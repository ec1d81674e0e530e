import RecordGateway.Backend.Sql
import RecordGateway.Database.Location
import RecordGateway.Database.Table
import RecordGateway.Listener.Network
import RecordGateway.Settings.EnvFile

/-!
# The service

The service reads its settings, opens the database, starts one listener that is bound to it, and
serves until it is told to stop.  A service that cannot start says why and leaves with a status of
its own: 2 for arguments that cannot be used, 101 for an environment that cannot be set up, and 1
for everything else.
-/

namespace RecordGateway

/-! ## Connecting to a storage

The driver says which dialect the source is of.  A server is never within reach, so that only
SQLite databases can be opened. -/

/-- The place of the database that a source names. -/
def Database.locate? (source : String) : Option Database.Location :=
  (Database.Source.parse? source).bind Database.Location.ofSource?

/-- The backend over the database that a source names, and the files that are there afterwards. -/
def connect (files : Database.Files) (driver source : String) :
    Except BackendError (SqlBackend Database × Database.Files) :=
  match Dialect.ofTag driver with
  | .error e => .error (.sql e)
  | .ok .postgres => .error (.storage "the server cannot be reached")
  | .ok .sqlite =>
    match Database.locate? source with
    | none => .error (.storage "the source cannot be understood")
    | some l =>
      match files.openAt? l with
      | none => .error (.storage "unable to open the database file")
      | some opened => .ok (.start (.fresh (files.isWritable l)), opened)

/-! ## Starting and stopping -/

open Http (Request)

/-- What the service finds where it is started. -/
structure Surroundings where
  environment : Environment
  /-- The content of the environment file, if there is one. -/
  envFile : Option String := none
  /-- The files that are there besides the environment file. -/
  files : Database.Files := {}
  /-- Do connections to the listener come through? -/
  reachable : Bool

namespace Surroundings

/-- The files that are there, the environment file among them. -/
def allFiles (around : Surroundings) : Database.Files :=
  match around.envFile with
  | none => around.files
  | some content =>
    { around.files with
      present := around.files.present ++ [EnvFile.name]
      foreign := around.files.foreign ++ if content.isEmpty then [] else [EnvFile.name] }

end Surroundings

/-- Why the service did not start. -/
inductive StartError
  | environment (cause : EnvFile.BadVariable)
  | usage (cause : UsageError)
  | database (cause : BackendError)
  | listener (cause : BindError)
  deriving DecidableEq, Repr

namespace StartError

/-- The line that is written before the service leaves. -/
def message : StartError → String
  | environment cause => cause.message
  | usage cause => cause.message
  | database cause => "Error: unable to initialize database: " ++ cause.message
  | listener cause => "Error: unable to initialize attendant: " ++ cause.message

/-- The status that the service leaves with. -/
def status : StartError → Nat
  | environment _ => 101
  | usage .helpWanted => 0
  | usage _ => 2
  | database _ => 1
  | listener _ => 1

end StartError

/-- The one backend of a service. -/
def Service.backends : Backends Unit (SqlBackend Database) where
  call _ _ verb r b :=
    let (answer, b) := match verb with
      | .register => b.register Database.storage r
      | .store => b.store Database.storage r
    (some answer, b)
  stop _ b := b.stop Database.storage

/-- A service that is up. -/
structure Service where
  settings : Settings
  /-- Its listener, with what the backend keeps. -/
  network : Network Unit (SqlBackend Database)
  /-- The files that are there. -/
  files : Database.Files

namespace Service

/-- The name of the one listener. -/
def listenerName : String := "http"

/-- Starts the service with settings. -/
def launch (s : Settings) (around : Surroundings) :
    Except StartError Service × Database.Files :=
  match connect around.allFiles s.driver s.source with
  | .error e => (.error (.database e), around.allFiles)
  | .ok (backend, files) =>
    let network : Network Unit (SqlBackend Database) :=
      { reachable := around.reachable, world := backend }
    match network.start listenerName s.http.listen s.http.username s.http.password with
    | .error e => (.error (.listener e), files)
    | .ok network => (.ok ⟨s, network.bind listenerName (), files⟩, files)

/-- The environment with what the environment file adds. -/
def fullEnvironment (around : Surroundings) : Except EnvFile.BadVariable Environment :=
  match around.envFile with
  | none => .ok around.environment
  | some content => EnvFile.load around.environment content

/-- The settings of a service that is started with arguments. -/
def settingsFrom (args : List String) (around : Surroundings) : Except StartError Settings :=
  match fullEnvironment around with
  | .error e => .error (.environment e)
  | .ok env =>
    match Settings.ofArguments args env with
    | .error e => .error (.usage e)
    | .ok s => .ok s

/-- The place of the database that the service opens when it is started with arguments. -/
def location? (args : List String) (around : Surroundings) : Option Database.Location :=
  match settingsFrom args around with
  | .error _ => none
  | .ok s => Database.locate? s.source

/-- Starts the service; also gives the files that are there afterwards. -/
def start (args : List String) (around : Surroundings) :
    Except StartError Service × Database.Files :=
  match settingsFrom args around with
  | .error e => (.error e, around.allFiles)
  | .ok s => launch s around

/-- Is the body of a request to the service looked at? -/
def readsBody (s : Service) (r : Request) : Bool :=
  (s.network.find? listenerName).any fun l ↦ Http.readsBody l.credentials r

/-- Sends a request to the service. -/
def request (s : Service) (r : Request) : Reply × Service :=
  let (reply, network) := s.network.request Service.backends listenerName r
  (reply, { s with network })

/-- Sends requests one after the other. -/
def requests (s : Service) : List Request → List Reply × Service
  | [] => ([], s)
  | r :: rs =>
    let (reply, s) := s.request r
    let (replies, s) := s.requests rs
    (reply :: replies, s)

/-- Stops the listener and then the backend. -/
def stop (s : Service) : Service :=
  let (_, network) := s.network.shutdown listenerName
  { s with network := { network with world := network.world.stop Database.storage } }

end Service

/-- What a run of the service comes to. -/
structure Outcome where
  /-- Did the service come up? -/
  ready : Bool
  /-- The status that it left with. -/
  status : Nat
  /-- What it said before it left. -/
  message : String
  replies : List Reply
  /-- The files in the working directory afterwards, the environment file apart. -/
  files : List String

/-- The names of the files that a run leaves behind. -/
def Service.leftBehind (fs : Database.Files) : List String :=
  fs.inWorkingDirectory.filter (· != EnvFile.name)

/-- Runs the service: requests are sent once it is up, and then it is told to stop. -/
def Service.runWith (args : List String) (around : Surroundings) (rs : List Request) : Outcome :=
  match Service.start args around with
  | (.error e, files) => ⟨false, e.status, e.message, [], leftBehind files⟩
  | (.ok s, _) =>
    let (replies, s) := s.requests rs
    ⟨true, 0, "", replies, leftBehind s.stop.files⟩

end RecordGateway
