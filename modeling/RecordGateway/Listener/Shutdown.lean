import RecordGateway.Latch

/-!
# Shutting a listener down

A listener serves connections in an accept loop, of which it keeps a handle.  The call that holds
the permit of the latch takes the handle, tells the loop to stop accepting, waits for it to drain
as long as the grace lasts, then aborts it, and returns when it has exited.  A call that finds no
handle has nothing to wait for.  A handle that its call gives up is gone, and the loop goes on
without it.
-/

namespace RecordGateway

/-- What the accept loop does. -/
inductive LoopPhase
  /-- It accepts connections. -/
  | serving
  /-- It was told to stop, and finishes the requests it has. -/
  | draining
  /-- It was aborted. -/
  | aborted
  /-- It is no more. -/
  | exited
  deriving DecidableEq, Repr

/-- Where the handle of the accept loop is. -/
inductive HandlePlace
  /-- The listener still has it. -/
  | kept
  /-- The call of a number has taken it. -/
  | taken (caller : Nat)
  /-- It is gone. -/
  | lost
  deriving DecidableEq, Repr

/-- A listener on its way down. -/
structure Shutdown where
  latch : Latch := .fresh
  handle : HandlePlace := .kept
  loop : LoopPhase := .serving
  deriving DecidableEq, Repr

/-- What may happen. -/
inductive ShutdownAction
  /-- A new caller arrives. -/
  | arrive
  /-- A caller takes the permit, and the handle if it is there. -/
  | start (caller : Nat)
  /-- The loop has finished, or has felt the abort. -/
  | exit
  /-- The grace of a caller is over. -/
  | expire (caller : Nat)
  /-- A caller's shutdown comes to its end. -/
  | finish (caller : Nat)
  /-- A waiting caller finds the latch closed. -/
  | observe (caller : Nat)
  /-- A caller gives up. -/
  | drop (caller : Nat)
  deriving DecidableEq, Repr

namespace Shutdown

/-- A listener that has just been started. -/
def fresh : Shutdown := {}

def alive (s : Shutdown) : Bool := s.latch.alive

/-- What an action leads to, where it can happen. -/
def step (s : Shutdown) : ShutdownAction → Option Shutdown
  | .arrive => (s.latch.step .arrive).map fun l ↦ { s with latch := l }
  | .start i =>
    (s.latch.step (.start i)).map fun l ↦
      if s.handle = .kept then
        { latch := l, handle := .taken i
          loop := if s.loop = .serving then .draining else s.loop }
      else { s with latch := l }
  | .exit =>
    if s.loop = .draining ∨ s.loop = .aborted then some { s with loop := .exited } else none
  | .expire i =>
    if s.handle = .taken i ∧ s.loop = .draining then some { s with loop := .aborted } else none
  | .finish i =>
    if s.handle = .taken i ∧ s.loop ≠ .exited then none
    else (s.latch.step (.finish i)).map fun l ↦ { s with latch := l }
  | .observe i => (s.latch.step (.observe i)).map fun l ↦ { s with latch := l }
  | .drop i =>
    (s.latch.step (.drop i)).map fun l ↦
      if s.handle = .taken i then { s with latch := l, handle := .lost } else { s with latch := l }

/-- What a sequence of actions leads to, if each of them can happen. -/
def run (s : Shutdown) : List ShutdownAction → Option Shutdown
  | [] => some s
  | a :: as => (s.step a).bind fun s ↦ s.run as

/-- Takes the actions that can happen, in order, and leaves out the others. -/
def play (s : Shutdown) (as : List ShutdownAction) : Shutdown :=
  as.foldl (fun s a ↦ (s.step a).getD s) s

/-- A call that is not given up, from its arrival to its return. -/
def call (s : Shutdown) : Shutdown :=
  let i := s.latch.nextCaller
  s.play [.arrive, .start i, .exit, .finish i, .observe i]

/-- As many callers as said arrive before any of them is served in turn. -/
def race (s : Shutdown) (n : Nat) : Shutdown :=
  let callers := s.latch.nextCallers n
  s.play (callers.map (fun _ ↦ .arrive)
    ++ callers.flatMap fun i ↦ [.start i, .exit, .finish i, .observe i])

/-- Lets the listener go: a loop whose handle it still has is told to stop and drains by itself. -/
def release (s : Shutdown) : Shutdown :=
  if s.handle = .kept then
    { s with handle := .lost, loop := if s.loop = .serving then .draining else s.loop }
  else s

end Shutdown

end RecordGateway
