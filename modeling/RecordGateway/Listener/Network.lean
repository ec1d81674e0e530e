import RecordGateway.Http.Gateway
import RecordGateway.Listener.Endpoint
import RecordGateway.Listener.Shutdown

/-!
# Listeners on a network

Listeners take endpoints and are bound to backends one by one.  An endpoint is taken as long as a
listener accepts connections at it.  A network may be cut off: endpoints can be taken on it
all the same, but no connection comes through.
-/

namespace RecordGateway

open Http (Credentials Gateway Request Response requestTimeout)

variable {ι ω : Type}

/-- A listener. -/
structure Listener (ι : Type) where
  endpoint : Endpoint
  credentials : Option Credentials
  /-- The backend that it is bound to. -/
  slot : Option ι := none
  shutdown : Shutdown := .fresh

/-- Does the listener accept connections? -/
def Listener.accepts (l : Listener ι) : Bool := l.shutdown.loop == .serving

/-- The listeners that were started, by name, and what the backends keep. -/
structure Network (ι ω : Type) where
  /-- Do connections come through? -/
  reachable : Bool
  listeners : List (String × Listener ι) := []
  world : ω

/-- Why a listener could not be started. -/
structure BindError where
  /-- The address asked for. -/
  address : String
  cause : EndpointError
  deriving DecidableEq, Repr

def BindError.message (e : BindError) : String :=
  "unable to bind " ++ e.address ++ ": " ++ e.cause.message

/-- What comes of a request sent over the network. -/
inductive Reply
  /-- Nobody took the connection. -/
  | refused
  | response (r : Response)
  deriving DecidableEq

namespace Network

/-- The least port that is given to a listener that asks for any. -/
def firstFreePort : Nat := 32768

/-- The listener of a name. -/
def find? (n : Network ι ω) (name : String) : Option (Listener ι) := n.listeners.lookup name

/-- Does some listener accept connections at an endpoint? -/
def taken (n : Network ι ω) (e : Endpoint) : Bool :=
  n.listeners.any fun l ↦ l.2.endpoint.overlaps e && l.2.accepts

/-- A port that no listener has had. -/
def freshPort (n : Network ι ω) : Nat :=
  n.listeners.foldl (fun p l ↦ max p (l.2.endpoint.port + 1)) firstFreePort

/-- The network with another listener of a name; one that had the name before is let go. -/
def put (n : Network ι ω) (name : String) (l : Listener ι) : Network ι ω :=
  { n with listeners := (name, l) :: n.listeners.map fun o ↦
      if o.1 == name then (o.1, { o.2 with shutdown := o.2.shutdown.release }) else o }

/-- The network with the listener of a name changed. -/
def update (n : Network ι ω) (name : String) (f : Listener ι → Listener ι) : Network ι ω :=
  { n with listeners := n.listeners.map fun o ↦ if o.1 == name then (o.1, f o.2) else o }

/-- Starts a listener at an endpoint that is written as an address. -/
def startAt (n : Network ι ω) (name address : String) (endpoint : Endpoint)
    (username password : String) : Except BindError (Network ι ω) :=
  if n.taken endpoint then .error ⟨address, .inUse⟩
  else .ok (n.put name { endpoint, credentials := Credentials.ofPair? username password })

/-- Starts a listener at an address. -/
def start (n : Network ι ω) (name address username password : String) :
    Except BindError (Network ι ω) :=
  match Endpoint.parse address with
  | .error e => .error ⟨address, e⟩
  | .ok place =>
    let port := if place.port = 0 then n.freshPort else place.port
    n.startAt name address { place with port } username password

/-- Binds the listener of a name to a backend. -/
def bind (n : Network ι ω) (name : String) (backend : ι) : Network ι ω :=
  n.update name fun l ↦ { l with slot := some backend }

/-- Is the listener of a name alive? -/
def alive (n : Network ι ω) (name : String) : Bool :=
  (n.find? name).any fun l ↦ l.shutdown.alive

/-- Shuts the listener of a name down; was it this call that did? -/
def shutdown (n : Network ι ω) (name : String) : Bool × Network ι ω :=
  match n.find? name with
  | none => (false, n)
  | some l =>
    let s := l.shutdown.call
    (s.latch.answer? l.shutdown.latch.nextCaller == some true,
      n.update name fun l ↦ { l with shutdown := s })

/-- Shuts the listener of a name down by many calls at once; how many of them did? -/
def raceShutdown (n : Network ι ω) (name : String) (calls : Nat) : Nat × Network ι ω :=
  match n.find? name with
  | none => (0, n)
  | some l =>
    let s := l.shutdown.race calls
    (s.latch.winners (l.shutdown.latch.nextCallers calls),
      n.update name fun l ↦ { l with shutdown := s })

/-- Lets the listener of a name go. -/
def drop (n : Network ι ω) (name : String) : Network ι ω :=
  n.update name fun l ↦ { l with shutdown := l.shutdown.release }

/-- Sends a request to the listener of a name, and waits for an answer as long as said. -/
def attempt (within : Nat) (B : Backends ι ω) (n : Network ι ω) (name : String) (r : Request) :
    Option Reply × Network ι ω :=
  match n.find? name with
  | none => (some .refused, n)
  | some l =>
    if n.reachable && l.accepts then
      let (response, g) := Gateway.attempt within l.credentials B r ⟨l.slot, n.world⟩
      (response.map .response, { n with world := g.world })
    else (some .refused, n)

/-- Sends a request to the listener of a name. -/
def request (B : Backends ι ω) (n : Network ι ω) (name : String) (r : Request) :
    Reply × Network ι ω :=
  let (reply, n) := n.attempt requestTimeout B name r
  (reply.getD (.response .timedOut), n)

/-- The milliseconds after which a listener is shut down when a request is under way. -/
def shutdownDelay : Nat := 40

/-- The milliseconds that requests under way are given when a listener is shut down. -/
def shutdownGrace : Nat := 100

/-- Sends a request and shuts the listener down while it is under way.  A request that is done
before the grace is over is answered. -/
def shutdownDuring (B : Backends ι ω) (n : Network ι ω) (name : String) (r : Request) :
    Bool × Option Reply × Network ι ω :=
  let (reply, m) := n.attempt (min requestTimeout (shutdownDelay + shutdownGrace)) B name r
  let (performed, m) := m.shutdown name
  (performed, reply, m)

end Network

end RecordGateway
