import RecordGateway.Http.Header
import RecordGateway.Http.Request
import RecordGateway.Http.Response

/-!
# The gateway

The way of a request: the credentials are asked for first, then the route, the body, its length,
the record in it and the validity of the record.  Only then is the backend looked up that the
gateway is bound to, and called once.  One clock runs for all of this: what the body has taken of
the time is not there for the call, and a request that is not done in time is given up where it
waits.
-/

namespace RecordGateway.Http

/-- The most bytes that a body may have. -/
def bodyLimit : Nat := 10 * 1024 * 1024

/-- The milliseconds that a request may take. -/
def requestTimeout : Nat := 1000

/-- Does a request pass the gate?  Without credentials to ask for, every request does. -/
def passes (credentials : Option Credentials) (r : Request) : Bool :=
  match credentials with
  | none => true
  | some c => (firstHeader? r.headers "authorization").any c.verify

/-- The bytes of a body that arrives whole, and is not too long. -/
def Body.collect (b : Body) : Except Refusal (List UInt8) :=
  if bodyLimit < b.bytes.length then .error .tooLong
  else
    match b.ending with
    | .complete => .ok b.bytes
    | .stalled => .error .stalled
    | .broken cause => .error (.broken cause)

/-- The valid record that a body of the declared length describes. -/
def receive (headers : List Header) (bytes : List UInt8)
    (visit : Document.Visit := .ascending) : Except Rejection Record :=
  match checkLength headers bytes.length with
  | .error e => .error (.transport e.message)
  | .ok () =>
    match Record.decode bytes visit with
    | .error e => .error (.decode e)
    | .ok r => if r.isValid then .ok r else .error .invalid

/-- What a request asks for, before it is known whom to ask. -/
def accept (credentials : Option Credentials) (r : Request) : Except Refusal (Verb × Record) :=
  if !passes credentials r then .error (.unauthorized (r.route ≠ .methodNotAllowed))
  else
    match r.route with
    | .notFound => .error .notFound
    | .methodNotAllowed => .error .methodNotAllowed
    | .verb v =>
      match r.body.collect with
      | .error e => .error e
      | .ok bytes =>
        match receive r.headers bytes with
        | .error e => .error (.rejected e)
        | .ok record => .ok (v, record)

/-- Is the body of a request looked at? -/
def readsBody (credentials : Option Credentials) (r : Request) : Bool :=
  passes credentials r &&
    match r.route with
    | .verb _ => true
    | _ => false

/-- What is said of a request whose body is not looked at does not depend on the body. -/
theorem accept_with_body {credentials : Option Credentials} {r : Request}
    (h : readsBody credentials r = false) (body : Body) :
    accept credentials { r with body } = accept credentials r := by
  have hp : passes credentials { r with body } = passes credentials r := rfl
  have hr : Request.route { r with body } = r.route := rfl
  simp only [accept, readsBody, hp, hr] at h ⊢
  cases hc : passes credentials r with
  | false => rfl
  | true =>
    cases hv : r.route with
    | verb v => simp [hc, hv] at h
    | notFound | methodNotAllowed => rfl

/-- One call of a backend. -/
structure Invocation (ι : Type) where
  backend : ι
  verb : Verb
  record : Record
  deriving DecidableEq

variable {ι ω : Type}

/-- The call that a request comes down to, `slot` being the backend that the gateway is bound
to. -/
def plan (credentials : Option Credentials) (slot : Option ι) (r : Request) :
    Except Refusal (Invocation ι) :=
  match accept credentials r with
  | .error e => .error e
  | .ok (verb, record) =>
    match slot with
    | none => .error (.rejected (.backend .unbound))
    | some backend => .ok ⟨backend, verb, record⟩

/-- What a client is sent when its call has been answered. -/
def Response.ofAnswer : Except BackendError Unit → Response
  | .ok () => .success
  | .error e => (Rejection.backend e).response

/-- A gateway: the backend it is bound to, and what the backends keep. -/
structure Gateway (ι ω : Type) where
  slot : Option ι
  world : ω

/-- What may be done with a gateway. -/
inductive Step (ι : Type)
  | bind (backend : ι)
  | unbind
  | stopBackend
  | request (r : Request)

/-- How a step is answered. -/
inductive Answer
  | bound
  | unbound
  | stopped
  | failed (cause : BackendError)
  | response (r : Response)
  deriving DecidableEq

namespace Gateway

/-- Carries a request out, if it is answered within the milliseconds given.  A call is given what
the body has left of them. -/
def attempt (within : Nat) (credentials : Option Credentials) (B : Backends ι ω) (r : Request)
    (g : Gateway ι ω) : Option Response × Gateway ι ω :=
  match plan credentials g.slot (r.within within) with
  | .error .stalled => (none, g)
  | .error e => (some e.response, g)
  | .ok v =>
    let (answer, world) :=
      B.call (within - r.body.arrival) v.backend v.verb v.record g.world
    (answer.map Response.ofAnswer, { g with world })

/-- Carries a request out. -/
def handle (credentials : Option Credentials) (B : Backends ι ω) (r : Request)
    (g : Gateway ι ω) : Response × Gateway ι ω :=
  let (response, g) := g.attempt requestTimeout credentials B r
  (response.getD .timedOut, g)

/-- Takes a step. -/
def step (credentials : Option Credentials) (B : Backends ι ω) (g : Gateway ι ω) :
    Step ι → Answer × Gateway ι ω
  | .bind backend => (.bound, { g with slot := some backend })
  | .unbind => (.unbound, { g with slot := none })
  | .stopBackend =>
    match g.slot with
    | none => (.failed .unbound, g)
    | some backend => (.stopped, { g with world := B.stop backend g.world })
  | .request r =>
    let (response, g) := g.handle credentials B r
    (.response response, g)

/-- Takes steps one after the other. -/
def run (credentials : Option Credentials) (B : Backends ι ω) (g : Gateway ι ω) :
    List (Step ι) → List Answer × Gateway ι ω
  | [] => ([], g)
  | s :: ss =>
    let (answer, g) := g.step credentials B s
    let (answers, g) := g.run credentials B ss
    (answer :: answers, g)

end Gateway

end RecordGateway.Http
