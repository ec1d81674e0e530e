import RecordGateway.Field.Value
import RecordGateway.Record.Basic
import RecordGateway.Record.Document

/-!
# Records from documents

Decoding reads the whole document first and then takes the values of its members for literals.
Of members with one name the last counts, so a value that is replaced later can do no harm.  The
fields have no order of their own; in whatever order they are gone through, the first one whose
value is no literal is the one that decoding fails with.
-/

namespace RecordGateway

/-- Why bytes are not a record. -/
inductive DecodeError
  /-- They are not a document. -/
  | json (fault : Json.Fault)
  /-- A field's value is no literal. -/
  | field (name : String) (cause : Unrecognised)
  deriving DecidableEq, Repr

/-- What is said about a fault in a document. -/
def Json.Fault.message : Json.Fault → String
  | malformed => "the text is not JSON"
  | mistyped => "the text is JSON of another type"
  | truncated => "the text ends too early"

namespace DecodeError

def message : DecodeError → String
  | json fault => "malformed record json: " ++ fault.message
  | field name cause => "field " ++ Text.quoted name ++ ": " ++ cause.message

end DecodeError

namespace Document

/-- The fields of a document, with their values as they are written. -/
def fields (d : Document) : NameMap String := NameMap.ofList d.members

/-- For every document an order in which its fields are gone through. -/
structure Visit where
  listing : (d : Document) → d.fields.Listing

/-- Fields are gone through in the order of their names. -/
def Visit.ascending : Visit := ⟨fun d ↦ .ascending d.fields⟩

/-- The value of a field, by its literal. -/
def fieldValue (name literal : String) : Except DecodeError Value :=
  match Value.infer literal with
  | .error e => .error (.field name e)
  | .ok v => .ok v

/-- The record that a document describes, unless the value of some field is no literal. -/
def toRecord (d : Document) (l : d.fields.Listing) : Except DecodeError Record :=
  match d.fields.traverse fieldValue l with
  | .error e => .error e
  | .ok fields => .ok ⟨d.table, fields⟩

end Document

namespace Record

/-- The record that the bytes describe. -/
def decode (s : List UInt8) (visit : Document.Visit := .ascending) : Except DecodeError Record :=
  match Document.read s with
  | .error e => .error (.json e)
  | .ok d => d.toRecord (visit.listing d)

end Record

end RecordGateway
