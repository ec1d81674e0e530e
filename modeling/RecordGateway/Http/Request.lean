import RecordGateway.Backend.Basic
import RecordGateway.Http.Header

/-!
# Requests

A request names a method and a target, and comes with header fields and a body that may not
arrive whole, or not in time.
-/

namespace RecordGateway.Http

/-- How a body ends. -/
inductive Ending
  /-- It arrives whole. -/
  | complete
  /-- Nothing more arrives. -/
  | stalled
  /-- The connection fails. -/
  | broken (cause : String)
  deriving DecidableEq, Repr

/-- The bytes of a body that arrive, and what comes after them. -/
structure Body where
  bytes : List UInt8
  ending : Ending := .complete
  /-- The milliseconds that all of this takes to arrive, as far as it is read. -/
  arrival : Nat := 0
  deriving DecidableEq

structure Request where
  method : String
  target : String := "/"
  headers : List Header
  body : Body
  deriving DecidableEq

/-- The request as far as it has come within some milliseconds: a body that takes longer might as
well have stalled. -/
def Request.within (limit : Nat) (r : Request) : Request :=
  if limit ≤ r.body.arrival then { r with body := { bytes := [], ending := .stalled } } else r

/-- What a target holds before a query or a fragment. -/
def beforeQuery (cs : List Char) : List Char := cs.takeWhile fun c ↦ c != '?' && c != '#'

/-- What follows `://` in a target, if it has a scheme. -/
def afterScheme? : List Char → Option (List Char)
  | ':' :: '/' :: '/' :: cs => some cs
  | c :: cs => if c.isAlphanum || c == '+' || c == '-' || c == '.' then afterScheme? cs else none
  | [] => none

/-- The path of a target: the target itself, or what follows the host in an absolute one, without
query and fragment. -/
def pathOf (target : String) : String :=
  match afterScheme? target.toList with
  | none => String.ofList (beforeQuery target.toList)
  | some cs =>
    match (beforeQuery cs).dropWhile (· != '/') with
    | [] => "/"
    | path => String.ofList path

/-- Where a request leads. -/
inductive Route
  | verb (v : Verb)
  | methodNotAllowed
  | notFound
  deriving DecidableEq, Repr

/-- Records are sent to the root, by PUT to make a place for them and by POST to keep them. -/
def Request.route (r : Request) : Route :=
  if pathOf r.target ≠ "/" then .notFound
  else if r.method = "PUT" then .verb .register
  else if r.method = "POST" then .verb .store
  else .methodNotAllowed

end RecordGateway.Http
