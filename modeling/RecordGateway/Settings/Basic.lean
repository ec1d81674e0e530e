import RecordGateway.Settings.Flags

/-!
# Settings

A setting has the value of its flag, else that of its environment variable, which may be empty,
else its default.
-/

namespace RecordGateway

/-- Environment variables with their values. -/
abbrev Environment := List (String × String)

/-- The settings of the gateway. -/
structure Settings where
  /-- The dialect of the database, by its word. -/
  driver : String
  /-- Where the database is. -/
  source : String
  /-- The user that clients have to be; anybody if empty. -/
  user : String
  /-- The password that clients have to know; anybody's if empty. -/
  password : String
  /-- The address to listen at. -/
  listen : String
  deriving DecidableEq, Repr

/-- What a listener has to know. -/
structure ListenerSettings where
  listen : String
  username : String
  password : String
  deriving DecidableEq, Repr

namespace Setting

/-- The environment variable of a setting. -/
def variableName : Setting → String
  | driver => "HOMEHUB_DRIVER"
  | source => "HOMEHUB_SOURCE"
  | user => "HOMEHUB_HTTP_USER"
  | password => "HOMEHUB_HTTP_PASSWORD"
  | listen => "HOMEHUB_HTTP_LISTEN"

/-- The value of a setting that is set nowhere. -/
def defaultValue : Setting → String
  | driver => "sqlite3"
  | source => "sqlite://brainiac.db?mode=rwc"
  | user => ""
  | password => ""
  | listen => "0.0.0.0:8080"

/-- The value of a setting. -/
def value (given : Setting → Option String) (env : Environment) (k : Setting) : String :=
  match given k with
  | some v => v
  | none => (env.lookup k.variableName).getD k.defaultValue

end Setting

namespace Settings

/-- The settings that the arguments and the environment give. -/
def ofArguments (args : List String) (env : Environment) : Except UsageError Settings :=
  match Flags.none.readAll args with
  | .error e => .error e
  | .ok f =>
    let value := Setting.value f.given env
    .ok ⟨value .driver, value .source, value .user, value .password, value .listen⟩

/-- The part of the settings that the listener has to know. -/
def http (s : Settings) : ListenerSettings := ⟨s.listen, s.user, s.password⟩

end Settings

end RecordGateway
