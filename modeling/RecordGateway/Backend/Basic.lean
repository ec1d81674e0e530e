import RecordGateway.Record.Basic
import RecordGateway.Sql.Dialect
import RecordGateway.Sql.Rebind

/-!
# Backends

A gateway can be bound to backends, which a record is registered with or stored in.  A backend over
a database has a storage below it, which runs statements.
-/

namespace RecordGateway

/-! ## Errors of backends

Why a backend did not take a record. -/

inductive BackendError
  /-- No statement could be made of the record. -/
  | sql (cause : SqlError)
  /-- The database refused. -/
  | storage (detail : String)
  /-- There is no backend. -/
  | unbound
  /-- The backend takes no records any more. -/
  | stopped
  deriving DecidableEq, Repr

namespace BackendError

def message : BackendError → String
  | sql cause => cause.message
  | storage detail => "storage error: " ++ detail
  | unbound => "no backend bound to the attendant"
  | stopped => "backend has been stopped"

end BackendError

/-! ## Calls of backends

A call answers in time or not, and either way may change what the backends keep. -/

/-- The two things that are done with a record. -/
inductive Verb
  /-- Make a place for records of its shape. -/
  | register
  /-- Keep its values. -/
  | store
  deriving DecidableEq, Repr

/-- Backends, of which `ι` names one and `ω` is what all of them keep. -/
structure Backends (ι ω : Type) where
  /-- What a call answers within the milliseconds it is given, and what the backends keep then.  A
  call that has not answered is given up. -/
  call : (within : Nat) → ι → Verb → Record → ω → Option (Except BackendError Unit) × ω
  /-- What the backends keep after one of them was stopped. -/
  stop : ι → ω → ω

/-! ## Storages

A storage runs statements against a database of one dialect.  It is given by how each call
answers in a state and which state it leaves behind. -/

/-- The calls of a database, `σ` being what it keeps. -/
structure Storage (σ : Type) where
  /-- The dialect that statements have to be written in. -/
  dialect : Dialect
  /-- Runs a statement without values. -/
  execute : String → σ → Except BackendError Unit × σ
  /-- Runs a statement with named values. -/
  executeNamed : NamedStatement → σ → Except BackendError Unit × σ
  /-- Gives the database back. -/
  close : σ → σ

/-! ## Storages with a journal

Any storage can be made to write down the calls it gets.  What it answers stays the same. -/

/-- A call of a storage. -/
inductive StorageCall
  | execute (sql : String)
  | executeNamed (statement : NamedStatement)
  | close
  deriving DecidableEq

/-- What a storage keeps, and the calls it got. -/
structure Journal (σ : Type) where
  /-- The calls so far, the first of them first. -/
  calls : List StorageCall := []
  state : σ
  deriving DecidableEq

namespace Journal

variable {σ : Type}

/-- Writes a call down. -/
def record (j : Journal σ) (c : StorageCall) (state : σ) : Journal σ := ⟨j.calls ++ [c], state⟩

end Journal

namespace Storage

/-- A storage that writes its calls down. -/
def journaled {σ : Type} (S : Storage σ) : Storage (Journal σ) where
  dialect := S.dialect
  execute sql j :=
    let (answer, state) := S.execute sql j.state
    (answer, j.record (.execute sql) state)
  executeNamed s j :=
    let (answer, state) := S.executeNamed s j.state
    (answer, j.record (.executeNamed s) state)
  close j := j.record .close (S.close j.state)

/-- How a storage answers that runs nothing. -/
def idleAnswer (failing : Bool) : Except BackendError Unit :=
  if failing then .error (.storage "told to fail") else .ok ()

/-- A storage that runs nothing.  All it keeps is whether it was told to fail. -/
def idle (d : Dialect) : Storage Bool where
  dialect := d
  execute _ failing := (idleAnswer failing, failing)
  executeNamed _ failing := (idleAnswer failing, failing)
  close failing := failing

end Storage

end RecordGateway
