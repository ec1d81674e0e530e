/-!
# Latches

A latch is open until a shutdown that one of its callers runs has come to its end, and closed from
then on.  One caller at a time holds the permit to run its shutdown; the others wait.  A caller
may give up wherever it waits or is suspended, and the permit of one that gives up is free again.
Every call has a flag of its own, which its shutdown sets at its end, and returns what the flag says.
Callers are numbered in the order in which they arrive.
-/

namespace RecordGateway

/-- Where a call stands. -/
inductive CallPhase
  /-- It waits for the permit, or for the latch to close. -/
  | waiting
  /-- Its shutdown is running. -/
  | running
  /-- It has returned. -/
  | returned (won : Bool)
  /-- It has been given up. -/
  | dropped
  deriving DecidableEq, Repr

/-- A call of a latch. -/
structure LatchCall where
  phase : CallPhase := .waiting
  /-- Its flag: has its own shutdown come to its end? -/
  ran : Bool := false
  deriving DecidableEq, Repr

namespace LatchCall

/-- The call goes into another phase. -/
def goTo (p : CallPhase) (c : LatchCall) : LatchCall := { c with phase := p }

/-- The shutdown of the call sets its flag. -/
def setFlag (c : LatchCall) : LatchCall := { c with ran := true }

/-- The call returns what its flag says. -/
def answer (c : LatchCall) : LatchCall := c.goTo (.returned c.ran)

@[simp] theorem phase_goTo (p : CallPhase) (c : LatchCall) : (c.goTo p).phase = p := rfl

@[simp] theorem ran_goTo (p : CallPhase) (c : LatchCall) : (c.goTo p).ran = c.ran := rfl

@[simp] theorem ran_answer (c : LatchCall) : c.answer.ran = c.ran := rfl

end LatchCall

/-- A latch with its callers. -/
structure Latch where
  closed : Bool := false
  /-- The caller that holds the permit. -/
  permit : Option Nat := none
  /-- The calls made so far, by number. -/
  calls : List LatchCall := []
  deriving DecidableEq, Repr

/-- What may happen at a latch. -/
inductive LatchAction
  /-- A new caller arrives. -/
  | arrive
  /-- A waiting caller takes the permit and starts its shutdown. -/
  | start (caller : Nat)
  /-- A shutdown comes to its end. -/
  | finish (caller : Nat)
  /-- A waiting caller finds the latch closed and returns. -/
  | observe (caller : Nat)
  /-- A caller gives up. -/
  | drop (caller : Nat)
  deriving DecidableEq, Repr

namespace Latch

/-- The latch that nobody has called. -/
def fresh : Latch := {}

/-- A latch is alive until a shutdown has come to its end. -/
def alive (l : Latch) : Bool := !l.closed

/-- Where the call of a number stands. -/
def phase? (l : Latch) (caller : Nat) : Option CallPhase := (l.calls[caller]?).map LatchCall.phase

/-- Is the flag of a call set? -/
def flag (l : Latch) (caller : Nat) : Bool := (l.calls[caller]?).any LatchCall.ran

/-- The latch with a call changed. -/
def update (l : Latch) (caller : Nat) (f : LatchCall → LatchCall) : Latch :=
  { l with calls := l.calls.modify caller f }

/-- What an action leads to, where it can happen. -/
def step (l : Latch) : LatchAction → Option Latch
  | .arrive => some { l with calls := l.calls ++ [{}] }
  | .start i =>
    if l.phase? i = some .waiting ∧ l.permit = none ∧ l.closed = false then
      some { l.update i (.goTo .running) with permit := some i }
    else none
  | .finish i =>
    if l.phase? i = some .running then
      some { l.update i fun c ↦ c.setFlag.answer with closed := true, permit := none }
    else none
  | .observe i =>
    if l.phase? i = some .waiting ∧ l.closed = true then some (l.update i LatchCall.answer)
    else none
  | .drop i =>
    if l.phase? i = some .waiting then some (l.update i (.goTo .dropped))
    else if l.phase? i = some .running then
      some { l.update i (.goTo .dropped) with permit := none }
    else none

/-- What a sequence of actions leads to, if each of them can happen. -/
def run (l : Latch) : List LatchAction → Option Latch
  | [] => some l
  | a :: as => (l.step a).bind fun l ↦ l.run as

/-- Takes the actions that can happen, in order, and leaves out the others. -/
def play (l : Latch) (as : List LatchAction) : Latch :=
  as.foldl (fun l a ↦ (l.step a).getD l) l

/-- What the call of a number has returned. -/
def answer? (l : Latch) (caller : Nat) : Option Bool :=
  match l.phase? caller with
  | some (.returned won) => some won
  | _ => none

/-- How many of the given callers have closed the latch by their shutdown. -/
def winners (l : Latch) (callers : List Nat) : Nat :=
  callers.countP fun i ↦ l.answer? i == some true

/-- How many of the given callers find the latch alive now. -/
def findAlive (l : Latch) (callers : List Nat) : Nat := if l.alive then callers.length else 0

/-! ## Schedules -/

/-- The number that the next caller will have. -/
def nextCaller (l : Latch) : Nat := l.calls.length

/-- A call up to where its shutdown is running, or up to its return if the latch is closed. -/
def enter (l : Latch) : Latch :=
  l.play [.arrive, .start l.nextCaller, .observe l.nextCaller]

/-- A call whose shutdown runs to its end. -/
def call (l : Latch) : Latch := l.enter.play [.finish l.nextCaller]

/-- A call that is given up while its shutdown is running. -/
def callAndDrop (l : Latch) : Latch := l.enter.play [.drop l.nextCaller]

/-- The numbers that the next callers will have. -/
def nextCallers (l : Latch) (n : Nat) : List Nat := (List.range n).map (l.nextCaller + ·)

/-- As many callers as said arrive before any of them is served in turn. -/
def race (l : Latch) (n : Nat) : Latch :=
  l.play ((l.nextCallers n).map (fun _ ↦ .arrive)
    ++ (l.nextCallers n).flatMap fun i ↦ [.start i, .finish i, .observe i])

/-- A caller starts a shutdown without end while another one waits. -/
def wait (l : Latch) : Latch := l.enter.play [.arrive, .observe (l.nextCaller + 1)]

/-- The caller whose shutdown has no end gives up, and the one that waited goes on. -/
def handOver (l : Latch) (first second : Nat) : Latch :=
  l.play [.drop first, .start second, .finish second]

end Latch

end RecordGateway
