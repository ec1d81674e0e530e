import RecordGateway.Backend.Basic
import RecordGateway.Latch

/-!
# Backends over SQL storages

A backend makes a table for the shape of a record, and puts records into their tables, each with
one statement.  A latch guards its storage: the call of `stop` whose shutdown runs closes the
storage, and once the latch is closed the storage is called no more.
-/

namespace RecordGateway

/-- A backend with what its storage keeps. -/
structure SqlBackend (σ : Type) where
  latch : Latch := .fresh
  /-- What the storage keeps. -/
  state : σ
  deriving DecidableEq

namespace SqlBackend

variable {σ : Type}

/-- A backend that has not been used. -/
def start (state : σ) : SqlBackend σ := { state }

/-- Has the backend been stopped? -/
def stopped (b : SqlBackend σ) : Bool := !b.latch.alive

/-- Makes the table that a record asks for. -/
def register (S : Storage σ) (r : Record) (b : SqlBackend σ) :
    Except BackendError Unit × SqlBackend σ :=
  if b.stopped then (.error .stopped, b)
  else
    match r.createIn S.dialect with
    | .error e => (.error (.sql e), b)
    | .ok sql =>
      let (answer, state) := S.execute sql b.state
      (answer, { b with state })

/-- Puts a record into its table, its fields being listed in some order. -/
def store (S : Storage σ) (r : Record) (b : SqlBackend σ)
    (listing : r.fields.Listing := .ascending r.fields) :
    Except BackendError Unit × SqlBackend σ :=
  if b.stopped then (.error .stopped, b)
  else
    match r.insert listing with
    | .error e => (.error (.sql e), b)
    | .ok s =>
      let (answer, state) := S.executeNamed s b.state
      (answer, { b with state })

/-- The backend with its latch moved on by calls of which so many have run their shutdown. -/
def closeTimes (S : Storage σ) (b : SqlBackend σ) (latch : Latch) (times : Nat) : SqlBackend σ where
  latch := latch
  state := Nat.repeat S.close times b.state

/-- Stops the backend. -/
def stop (S : Storage σ) (b : SqlBackend σ) : SqlBackend σ :=
  let latch := b.latch.call
  b.closeTimes S latch (latch.winners [b.latch.nextCaller])

/-- Stops the backend by as many calls at once as said. -/
def raceStop (S : Storage σ) (n : Nat) (b : SqlBackend σ) : SqlBackend σ :=
  let latch := b.latch.race n
  b.closeTimes S latch (latch.winners (b.latch.nextCallers n))

/-! ## Runs -/

/-- What may be done with a backend. -/
inductive Step
  | register (r : Record)
  | store (r : Record) (listing : r.fields.Listing := .ascending r.fields)
  | stop
  | raceStop (n : Nat)
  deriving DecidableEq

/-- Takes a step.  Stopping never fails. -/
def step (S : Storage σ) (b : SqlBackend σ) : Step → Except BackendError Unit × SqlBackend σ
  | .register r => b.register S r
  | .store r listing => b.store S r listing
  | .stop => (.ok (), b.stop S)
  | .raceStop n => (.ok (), b.raceStop S n)

/-- Takes steps one after the other. -/
def run (S : Storage σ) (b : SqlBackend σ) :
    List Step → List (Except BackendError Unit) × SqlBackend σ
  | [] => ([], b)
  | s :: ss =>
    let (answer, b) := b.step S s
    let (answers, b) := b.run S ss
    (answer :: answers, b)

end SqlBackend

end RecordGateway
