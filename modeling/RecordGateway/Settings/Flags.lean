/-!
# Flags of the command line

Every setting has a long and a short flag.  A value stands behind its flag as the next argument
or, after an equals sign or right behind a short flag, in the same one.  Arguments are read from
left to right up to the first error or request for help.  Whether a flag has its value, and has it
for the first time, is looked at when the next known flag or the end of the arguments comes.
-/

namespace RecordGateway

/-- What can be set. -/
inductive Setting
  | driver
  | source
  | user
  | password
  | listen
  deriving DecidableEq, Repr

/-- Why arguments cannot be used, or are not to be. -/
inductive UsageError
  /-- No flag takes this argument. -/
  | unknownArgument
  /-- A flag has no value. -/
  | missingValue
  /-- A flag was given before. -/
  | repeated
  /-- A flag that takes no value has one. -/
  | unwantedValue
  /-- Help was asked for. -/
  | helpWanted
  deriving DecidableEq, Repr

/-- What is said about arguments that cannot be used. -/
def UsageError.message : UsageError → String
  | unknownArgument => "error: an argument is not known; try --help"
  | missingValue => "error: a flag has no value; try --help"
  | repeated => "error: a flag is given twice; try --help"
  | unwantedValue => "error: --help takes no value"
  | helpWanted =>
    "Usage: record-gateway [-d DRIVER] [-s SOURCE] [-l USER] [-p PASSWORD] [-P HTTP-LISTEN]"

namespace Setting

def all : List Setting := [driver, source, user, password, listen]

/-- The long flag, without its dashes. -/
def long : Setting → String
  | driver => "driver"
  | source => "source"
  | user => "user"
  | password => "password"
  | listen => "http-listen"

/-- The short flag, without its dash. -/
def short : Setting → Char
  | driver => 'd'
  | source => 's'
  | user => 'l'
  | password => 'p'
  | listen => 'P'

/-- The setting of a long flag. -/
def ofLong? (name : String) : Option Setting := all.find? fun k ↦ k.long == name

/-- The setting of a short flag. -/
def ofShort? (c : Char) : Option Setting := all.find? fun k ↦ k.short == c

end Setting

/-- One argument of the command line. -/
inductive Argument
  /-- Two dashes on their own, behind which no flags follow. -/
  | escape
  /-- A long flag with the value behind its equals sign. -/
  | long (name : String) (value : Option String)
  /-- A short flag with what stands right behind it. -/
  | short (flag : Char) (behind : List Char)
  /-- Anything else. -/
  | plain
  deriving DecidableEq, Repr

namespace Argument

/-- What an argument is by its form. -/
def ofString (s : String) : Argument :=
  match s.toList with
  | ['-', '-'] => .escape
  | '-' :: '-' :: cs =>
    .long (String.ofList (cs.takeWhile (· != '=')))
      (match cs.dropWhile (· != '=') with
        | [] => none
        | _ :: v => some (String.ofList v))
  | '-' :: c :: cs => .short c cs
  | _ => .plain

end Argument

/-- The flags read so far. -/
structure Flags where
  /-- The values of settings. -/
  given : Setting → Option String
  /-- The last flag that was not in one argument with its value, and its value if that came. -/
  pending : Option (Setting × Option String)

namespace Flags

/-- Before any argument was read. -/
def none : Flags := ⟨fun _ ↦ Option.none, Option.none⟩

/-- Gives a setting its value, for the first time. -/
def assign (f : Flags) (k : Setting) (v : String) : Except UsageError Flags :=
  if (f.given k).isSome then .error .repeated
  else .ok { f with given := fun j ↦ if j = k then some v else f.given j }

/-- Looks at the flag that is pending. -/
def settle (f : Flags) : Except UsageError Flags :=
  match f.pending with
  | .none => .ok f
  | some (_, .none) => .error .missingValue
  | some (k, some v) => { f with pending := .none }.assign k v

/-- A flag with its value in the same argument. -/
def attach (f : Flags) (k : Setting) (v : String) : Except UsageError Flags :=
  match f.settle with
  | .error e => .error e
  | .ok f => f.assign k v

/-- A flag whose value has to come. -/
def await (f : Flags) (k : Setting) : Except UsageError Flags :=
  match f.settle with
  | .error e => .error e
  | .ok f => .ok { f with pending := some (k, .none) }

/-- A request for help. -/
def help (f : Flags) : Except UsageError Flags :=
  match f.settle with
  | .error e => .error e
  | .ok _ => .error .helpWanted

/-- Reads one argument that is not two dashes on their own. -/
def read (f : Flags) (s : String) : Except UsageError Flags :=
  match Argument.ofString s with
  | .long "help" value => if value.isSome then .error .unwantedValue else f.help
  | .long name value =>
    match Setting.ofLong? name, value with
    | .none, _ => .error .unknownArgument
    | some k, some v => f.attach k v
    | some k, .none => f.await k
  | .short 'h' _ => f.help
  | .short c behind =>
    match Setting.ofShort? c, behind with
    | .none, _ => .error .unknownArgument
    | some k, [] => f.await k
    | some k, '=' :: v => f.attach k (String.ofList v)
    | some k, v => f.attach k (String.ofList v)
  | .escape | .plain =>
    match f.pending with
    | some (k, .none) => .ok { f with pending := some (k, some s) }
    | _ => .error .unknownArgument

/-- Reads all arguments. -/
def readAll (f : Flags) : List String → Except UsageError Flags
  | [] => f.settle
  | s :: ss =>
    if s = "--" then if ss.isEmpty then f.settle else .error .unknownArgument
    else
      match f.read s with
      | .error e => .error e
      | .ok f => f.readAll ss

end Flags

end RecordGateway
