import RecordGateway.Digest.Password
import RecordGateway.Number.Decimal
import RecordGateway.Text.Basic

/-!
# Header fields

A header field has a name, in which the case of letters does not count, and a value of bytes.  A
value can be read as a text if it holds visible ASCII, spaces and tabs only.
-/

namespace RecordGateway.Http

/-- A header field. -/
structure Header where
  name : String
  value : List UInt8
  deriving DecidableEq

/-- May a byte stand in a header value at all?  Control characters may not, the tab aside. -/
def isValueByte (b : UInt8) : Bool := b == 0x09 || (0x20 ≤ b && b != 0x7F)

/-- Bytes that can be read as text: visible ASCII, spaces and tabs. -/
def isTextByte (b : UInt8) : Bool := b == 0x09 || (0x20 ≤ b && b < 0x7F)

/-- A header value as text, if it can be read as such. -/
def readValue? (value : List UInt8) : Option (List Char) :=
  if value.all isTextByte then some (value.map fun b ↦ Char.ofNat b.toNat) else none

/-- The value of the first field of a name, which is given in small letters. -/
def firstHeader? (headers : List Header) (name : String) : Option (List UInt8) :=
  (headers.find? fun h ↦ Text.sameIgnoringCase h.name name).map (·.value)

/-! ## The declared length of a body

A request has to say how long its body is, and the body has to be as long as it says. -/

/-- Why a declared length does not fit a body. -/
inductive LengthError
  | missing
  | unreadable
  | different (declared actual : Nat)
  deriving DecidableEq, Repr

def LengthError.message : LengthError → String
  | missing => "missing content-length"
  | unreadable => "unparsable content-length"
  | different declared actual =>
    "content-length " ++ toString declared ++ " but read " ++ toString actual ++ " bytes"

/-- The digits of a length, behind a plus sign that may be there. -/
def lengthDigits : List Char → List Char
  | '+' :: cs => cs
  | cs => cs

/-- The length that a text declares: a number below `2 ^ 64` in decimal digits. -/
def parseLength? (cs : List Char) : Option Nat :=
  let ds := lengthDigits cs
  if ds.isEmpty || !ds.all Char.isDigit then none
  else
    let n := Decimal.ofDigits ds
    if n < UInt64.size then some n else none

/-- Is the body of `size` bytes as long as the headers say? -/
def checkLength (headers : List Header) (size : Nat) : Except LengthError Unit :=
  match firstHeader? headers "content-length" with
  | none => .error .missing
  | some value =>
    match (readValue? value).bind fun line ↦ parseLength? (Text.trim line) with
    | none => .error .unreadable
    | some declared => if declared = size then .ok () else .error (.different declared size)

/-! ## Basic authentication

A gateway may ask for one user name and its password.  They come in a header value: the word
`Basic` in any case, a space, and the Base64 text of the name, a colon and the password. -/

/-- A user name and what is kept of its password. -/
structure Credentials where
  username : String
  passwordHash : String
  deriving DecidableEq, Repr

/-- A text split at the first place where a character stands, which belongs to neither part. -/
def splitFirst (c : Char) : List Char → Option (List Char × List Char)
  | [] => none
  | d :: ds => if d = c then some ([], ds) else (splitFirst c ds).map fun r ↦ (d :: r.1, r.2)

/-- The user name and the password in a header value. -/
def readBasic? (value : List UInt8) : Option (String × String) := do
  let line ← readValue? value
  let (scheme, token) ← splitFirst ' ' (Text.trim line)
  if Text.sameIgnoringCase (String.ofList scheme) "basic" then
    let bytes ← Text.Base64.decode (Text.trim token)
    let pair ← Text.Utf8.decode bytes
    let (username, password) ← splitFirst ':' pair.toList
    some (String.ofList username, String.ofList password)
  else none

namespace Credentials

/-- The credentials that a gateway asks for; it asks for none if either part is empty. -/
def ofPair? (username password : String) : Option Credentials :=
  if username.isEmpty || password.isEmpty then none
  else some ⟨username, Password.hash password⟩

/-- Does a header value hold these credentials?  Both parts are compared in any case. -/
def verify (c : Credentials) (value : List UInt8) : Bool :=
  match readBasic? value with
  | none => false
  | some (username, password) =>
    and (Password.matchesText username c.username)
      (Password.matchesText (Password.hash password) c.passwordHash)

end Credentials

end RecordGateway.Http
