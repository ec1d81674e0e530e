import RecordGateway.Http.Gateway

/-!
# Requests at the same time

Many requests are under way at one gateway, and it is bound to backends meanwhile.  A request is
received, looks up the backend that the gateway is bound to, calls the one it has found, and waits
for the answer.  It may be given up wherever it waits, which it does not do between looking and
calling; but the gateway may be bound anew there.  Requests are numbered in the order in which they
arrive, and all calls are kept in the order in which they were made.
-/

namespace RecordGateway.Http

/-- Where a request stands. -/
inductive RequestPhase (ι : Type)
  /-- It has arrived. -/
  | arrived (r : Request)
  /-- It was taken, and waits to look up the backend. -/
  | accepted (verb : Verb) (record : Record)
  /-- It has found a backend, and is about to call it. -/
  | holding (v : Invocation ι)
  /-- It has called a backend, and waits for the answer. -/
  | calling (v : Invocation ι)
  | answered (r : Response)
  /-- Its time was up. -/
  | givenUp
  deriving DecidableEq

/-- A gateway with the requests at it. -/
structure Traffic (ι : Type) where
  /-- The backend that the gateway is bound to. -/
  slot : Option ι := none
  /-- The requests so far, by number. -/
  requests : List (RequestPhase ι) := []
  /-- The calls so far, each with the number of the request that made it. -/
  calls : List (Nat × Invocation ι) := []
  deriving DecidableEq

/-- What may happen at a gateway. -/
inductive TrafficAction (ι : Type)
  | bind (backend : ι)
  | unbind
  /-- A new request arrives. -/
  | arrive (r : Request)
  /-- A request that has arrived is taken or refused. -/
  | receive (request : Nat)
  /-- A request that was taken looks up the backend. -/
  | look (request : Nat)
  /-- A request calls the backend that it has found. -/
  | call (request : Nat)
  /-- The call of a request is answered. -/
  | answer (request : Nat) (result : Except BackendError Unit)
  /-- The time of a request is up. -/
  | giveUp (request : Nat)

namespace Traffic

variable {ι : Type}

/-- Where the request of a number stands. -/
def phase? (t : Traffic ι) (i : Nat) : Option (RequestPhase ι) := t.requests[i]?

/-- The traffic with a request in another phase. -/
def setPhase (t : Traffic ι) (i : Nat) (p : RequestPhase ι) : Traffic ι :=
  { t with requests := t.requests.set i p }

/-- What an action leads to, where it can happen.  A request whose body stalls is never taken. -/
def step (credentials : Option Credentials) (t : Traffic ι) : TrafficAction ι → Option (Traffic ι)
  | .bind backend => some { t with slot := some backend }
  | .unbind => some { t with slot := none }
  | .arrive r => some { t with requests := t.requests ++ [.arrived r] }
  | .receive i =>
    match t.phase? i with
    | some (.arrived r) =>
      match accept credentials r with
      | .error .stalled => none
      | .error e => some (t.setPhase i (.answered e.response))
      | .ok (verb, record) => some (t.setPhase i (.accepted verb record))
    | _ => none
  | .look i =>
    match t.phase? i with
    | some (.accepted verb record) =>
      match t.slot with
      | none => some (t.setPhase i (.answered (Rejection.backend .unbound).response))
      | some backend => some (t.setPhase i (.holding ⟨backend, verb, record⟩))
    | _ => none
  | .call i =>
    match t.phase? i with
    | some (.holding v) => some { t.setPhase i (.calling v) with calls := t.calls ++ [(i, v)] }
    | _ => none
  | .answer i result =>
    match t.phase? i with
    | some (.calling _) => some (t.setPhase i (.answered (Response.ofAnswer result)))
    | _ => none
  | .giveUp i =>
    match t.phase? i with
    | some (.arrived _) | some (.accepted _ _) | some (.calling _) => some (t.setPhase i .givenUp)
    | _ => none

/-- What a sequence of actions leads to, if each of them can happen. -/
def run (credentials : Option Credentials) (t : Traffic ι) :
    List (TrafficAction ι) → Option (Traffic ι)
  | [] => some t
  | a :: as => (t.step credentials a).bind fun t ↦ t.run credentials as

/-- The calls that a request has made. -/
def callsOf (t : Traffic ι) (i : Nat) : List (Invocation ι) :=
  (t.calls.filter fun c ↦ c.1 == i).map (·.2)

end Traffic

end RecordGateway.Http
