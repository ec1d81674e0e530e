import RecordGateway.Backend.Basic
import RecordGateway.Backend.Sql

/-!
# Backends on trial

Backends to try a gateway with: those over a storage that runs nothing, and recorders, which take
down the records they are given, after a delay and perhaps with an error.  All write into one
journal.
-/

namespace RecordGateway

/-- A backend to try a gateway with. -/
inductive TrialBackend
  /-- A backend over a storage that runs nothing. -/
  | sql (dialect : Dialect) (backend : SqlBackend Bool)
  /-- A recorder; with a reason to refuse it takes no record. -/
  | recorder (name : String) (delay : Nat) (refusal : Option BackendError)
  deriving DecidableEq

/-- What is written down. -/
inductive TrialEntry
  /-- A call of the storage of a dialect. -/
  | call (dialect : Dialect) (c : StorageCall)
  | received (name : String) (verb : Verb) (record : Record)
  | stopped (name : String)
  deriving DecidableEq

/-- Backends by number, and the journal they share. -/
structure Trial where
  backends : List TrialBackend
  journal : List TrialEntry
  deriving DecidableEq

namespace Trial

def empty : Trial := ⟨[], []⟩

/-- Adds a backend, and tells its number. -/
def add (b : TrialBackend) (t : Trial) : Nat × Trial :=
  (t.backends.length, { t with backends := t.backends ++ [b] })

/-- Takes all entries out of the journal. -/
def drain (t : Trial) : List TrialEntry × Trial := (t.journal, { t with journal := [] })

/-- Lets a backend over a storage take a step, and writes down the calls of its storage. -/
def stepSql (t : Trial) (i : Nat) (dialect : Dialect) (b : SqlBackend Bool) (s : SqlBackend.Step) :
    Except BackendError Unit × Trial :=
  let S := (Storage.idle dialect).journaled
  let (answer, after) := SqlBackend.step S ⟨b.latch, { state := b.state }⟩ s
  (answer, ⟨t.backends.set i (.sql dialect ⟨after.latch, after.state.state⟩),
    t.journal ++ after.state.calls.map (.call dialect)⟩)

/-- One call of a backend.  A recorder waits before it does anything. -/
def call (within : Nat) (i : Nat) (verb : Verb) (r : Record) (t : Trial) :
    Option (Except BackendError Unit) × Trial :=
  match t.backends[i]? with
  | none => (some (.error .unbound), t)
  | some (.sql d b) =>
    let (answer, t) := t.stepSql i d b (match verb with
      | .register => .register r
      | .store => .store r)
    (some answer, t)
  | some (.recorder name delay refusal) =>
    if within ≤ delay then (none, t)
    else
      (some (match refusal with
        | none => .ok ()
        | some e => .error e),
        { t with journal := t.journal ++ [.received name verb r] })

/-- Stops a backend. -/
def stop (i : Nat) (t : Trial) : Trial :=
  match t.backends[i]? with
  | none => t
  | some (.sql d b) => (t.stepSql i d b .stop).2
  | some (.recorder name _ _) => { t with journal := t.journal ++ [.stopped name] }

/-- The backends of a trial, by number. -/
def backendsByNumber : Backends Nat Trial where
  call := call
  stop := stop

end Trial

end RecordGateway
