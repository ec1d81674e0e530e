import RecordGateway.Backend.Basic
import RecordGateway.Json.Text
import RecordGateway.Record.Decode

/-!
# Responses

What a client is sent back: a status, a body, and the few header fields that say something.
-/

namespace RecordGateway.Http

structure Response where
  status : Nat
  body : String := ""
  /-- The methods that are allowed. -/
  allow : Option String := none
  contentType : Option String := none
  /-- How to authenticate. -/
  challenge : Option String := none
  deriving DecidableEq, Repr

/-- The body that tells a client how its record fared. -/
def outcomeText : Option String → String
  | none => "\x7b\"success\":true\x7d"
  | some message => "\x7b\"success\":false,\"error\":" ++ Json.render message ++ "\x7d"

namespace Response

/-- The record was taken. -/
def success : Response :=
  { status := 200, body := outcomeText none, contentType := some "application/json" }

/-- The record was not taken, for a reason that the client may know. -/
def failure (message : String) : Response :=
  { status := 400, body := outcomeText (some message), contentType := some "application/json" }

/-- The client did not show the right credentials. -/
def unauthorized : Response :=
  { status := 401, challenge := some "Basic realm=\"homehub\"" }

def notFound : Response := { status := 404 }

/-- The methods that a record may be sent by. -/
def allowedMethods : String := "PUT,POST"

def methodNotAllowed : Response := { status := 405, allow := some allowedMethods }

def timedOut : Response := { status := 408 }

/-- The body could not be read. -/
def unreadableBody (status : Nat) (cause : String) : Response where
  status := status
  body := "Failed to buffer the request body: " ++ cause
  contentType := some "text/plain; charset=utf-8"

end Response

/-! ## Rejected records

Why a request that reached the gateway was not carried out.  What went wrong in detail is for the
operator; the client is told no more than the stage. -/

inductive Rejection
  /-- The body did not arrive as declared. -/
  | transport (detail : String)
  /-- The body is no record. -/
  | decode (cause : DecodeError)
  /-- The record has names or values that cannot be kept. -/
  | invalid
  /-- No backend took the record. -/
  | backend (cause : BackendError)
  deriving DecidableEq, Repr

namespace Rejection

/-- What the operator is told. -/
def message : Rejection → String
  | transport detail => "transport error: " ++ detail
  | decode cause => cause.message
  | invalid => "record failed validation"
  | backend cause => cause.message

/-- What the client is told. -/
def stage : Rejection → String
  | transport _ => "invalid request body"
  | decode _ => "malformed record"
  | invalid => "invalid record"
  | backend _ => "record rejected"

def response (r : Rejection) : Response := .failure r.stage

end Rejection

/-! ## Refused requests

Why a request does not get as far as a backend, and what its client is sent then. -/

inductive Refusal
  /-- The client did not show the right credentials, for a method that is allowed or not. -/
  | unauthorized (allowed : Bool)
  | notFound
  | methodNotAllowed
  /-- The body has more bytes than are read. -/
  | tooLong
  /-- The connection failed before the body had arrived. -/
  | broken (cause : String)
  /-- The body does not arrive in time. -/
  | stalled
  /-- The body arrived, but is not taken. -/
  | rejected (cause : Rejection)
  deriving DecidableEq, Repr

/-- What the client is sent. -/
def Refusal.response : Refusal → Response
  | unauthorized true => .unauthorized
  | unauthorized false => { Response.unauthorized with allow := some Response.allowedMethods }
  | notFound => .notFound
  | methodNotAllowed => .methodNotAllowed
  | tooLong => .unreadableBody 413 "length limit exceeded"
  | broken cause => .unreadableBody 400 cause
  | stalled => .timedOut
  | rejected cause => cause.response

end RecordGateway.Http
