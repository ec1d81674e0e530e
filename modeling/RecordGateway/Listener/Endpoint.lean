import RecordGateway.Number.Decimal

/-!
# Listen addresses

An address is a host and a port behind the last colon.
-/

namespace RecordGateway

/-! ## Hosts

A host is an address of four bytes or of eight groups of 16 bits.  In the first form, one to four
numbers stand between points; the last of them fills all the bytes that are left, and each may be
written in decimal, octal or hexadecimal. -/

/-- The address of a host. -/
inductive Host
  /-- An address of four bytes, as one number. -/
  | v4 (address : Nat)
  /-- An address of eight groups of 16 bits. -/
  | v6 (groups : List Nat)
  deriving DecidableEq, Repr

namespace Host

/-! ### Four bytes -/

/-- The value of a hexadecimal digit. -/
def hexDigit? (c : Char) : Option Nat :=
  if c.isDigit then some (c.toNat - 48)
  else if 'a' ≤ c.toLower ∧ c.toLower ≤ 'f' then some (c.toLower.toNat - 87)
  else none

/-- The number that digits of a base stand for, if there are any. -/
def ofDigits? (base : Nat) (cs : List Char) : Option Nat := do
  let ds ← cs.mapM hexDigit?
  if ds.isEmpty || !ds.all (· < base) then none
  else some (ds.foldl (fun n d ↦ base * n + d) 0)

/-- A number of an address: octal behind a zero, hexadecimal behind `0x`, else decimal. -/
def number? : List Char → Option Nat
  | '0' :: 'x' :: cs | '0' :: 'X' :: cs => ofDigits? 16 cs
  | '0' :: cs => ofDigits? 8 ('0' :: cs)
  | cs => ofDigits? 10 cs

/-- The address of numbers, of which `left` bytes are to be filled. -/
def fill? (left : Nat) : List Nat → Option Nat
  | [] => none
  | [n] => if n < Nat.pow 256 left then some n else none
  | n :: ns =>
    if 1 < left ∧ n < 256 then (fill? (left - 1) ns).map (n * Nat.pow 256 (left - 1) + ·) else none

/-- The address of four bytes that a text stands for. -/
def parseV4? (cs : List Char) : Option Host := do
  let ns ← (cs.splitOn '.').mapM number?
  (fill? 4 ns).map .v4

/-! ### Eight groups -/

/-- A decimal number below 256 without needless zeros. -/
def byte? (cs : List Char) : Option Nat := do
  let n ← ofDigits? 10 cs
  if n < 256 ∧ (Nat.toDigits 10 n) = cs then some n else none

/-- A group of up to four hexadecimal digits. -/
def group? (cs : List Char) : Option Nat := if cs.length ≤ 4 then ofDigits? 16 cs else none

/-- The groups that parts stand for.  The last part may be an address of four bytes. -/
def groups? : List (List Char) → Option (List Nat)
  | [] => some []
  | [cs] =>
    match (cs.splitOn '.').mapM byte? with
    | some [a, b, c, d] => some [256 * a + b, 256 * c + d]
    | _ => (group? cs).map ([·])
  | cs :: rest => do
    let g ← group? cs
    let gs ← groups? rest
    some (g :: gs)

/-- A text split at the first double colon. -/
def splitGap : List Char → List Char × Option (List Char)
  | [] => ([], none)
  | ':' :: ':' :: cs => ([], some cs)
  | c :: cs => ((c :: (splitGap cs).1), (splitGap cs).2)

/-- The parts between colons; an empty text has none. -/
def parts (cs : List Char) : List (List Char) := if cs.isEmpty then [] else cs.splitOn ':'

/-- The address of eight groups that a text stands for.  A double colon stands for as many groups of
zero as are missing, at least one. -/
def parseV6? (cs : List Char) : Option Host := do
  match splitGap cs with
  | (all, none) =>
    let gs ← groups? (parts all)
    if gs.length = 8 then some (.v6 gs) else none
  | (front, some back) =>
    let fs ← (parts front).mapM group?
    let bs ← groups? (parts back)
    let missing := 8 - (fs.length + bs.length)
    if 0 < missing then some (.v6 (fs ++ List.replicate missing 0 ++ bs)) else none

/-! ### Hosts of this machine -/

/-- The address that a machine reaches itself at. -/
def loopback : Host := .v4 2130706433

/-- The host that a text stands for: an address, or the local one by name. -/
def parse? (cs : List Char) : Option Host :=
  if (String.ofList (cs.map Char.toLower)) = "localhost" then some loopback
  else (parseV4? cs).orElse fun _ ↦ parseV6? cs

/-- Can a listener be on an address of four bytes?  It can on those of this machine, of which the
address of zeros stands for all, and on those of groups of machines. -/
def isOpenV4 (address : Nat) : Bool :=
  let first := address / Nat.pow 256 3
  address == 0 || first == 127 || (224 ≤ first && first < 240) || address == UInt32.size - 1

/-- Can a listener be on a host? -/
def isOpen : Host → Bool
  | .v4 a => isOpenV4 a
  | .v6 [0, 0, 0, 0, 0, 0, 0, last] => last ≤ 1
  | .v6 [0, 0, 0, 0, 0, 65535, high, low] => isOpenV4 (65536 * high + low)
  | .v6 _ => false

/-- Is the host one of those that a listener on another one is on?  The address of zeros stands for
all. -/
def covers : Host → Host → Bool
  | .v4 a, .v4 b => a == 0 || a == b
  | .v6 g, .v6 h => g.all (· == 0) || g == h
  | .v6 g, .v4 _ => g.all (· == 0)
  | .v4 _, .v6 _ => false

/-- Is there a host that listeners on both would be on? -/
def overlaps (a b : Host) : Bool := covers a b || covers b a

end Host

/-! ## Ports -/

/-- A place to listen at; port 0 asks for any free port. -/
structure Endpoint where
  host : Host
  port : Nat
  deriving DecidableEq, Repr

/-- Why nobody can listen at an address. -/
inductive EndpointError
  | noPort
  | badPort
  | unknownHost
  | foreignHost
  | inUse
  deriving DecidableEq, Repr

def EndpointError.message : EndpointError → String
  | noPort => "invalid socket address"
  | badPort => "invalid port value"
  | unknownHost => "failed to lookup address information: Name or service not known"
  | foreignHost => "Cannot assign requested address (os error 99)"
  | inUse => "Address already in use (os error 98)"

namespace Endpoint

/-- A text split at its last colon. -/
def splitPort (cs : List Char) : Option (List Char × List Char) :=
  match cs.reverse.dropWhile (· != ':') with
  | [] => none
  | _ :: host => some (host.reverse, (cs.reverse.takeWhile (· != ':')).reverse)

/-- A port: a number below `2 ^ 16` in decimal digits, with a plus sign or without. -/
def parsePort? (cs : List Char) : Option Nat :=
  let ds := match cs with
    | '+' :: ds => ds
    | ds => ds
  if ds.isEmpty || !ds.all Char.isDigit then none
  else
    let n := Decimal.ofDigits ds
    if n < UInt16.size then some n else none

/-- The host of a text in front of a port.  An address of eight groups may stand in brackets, but
then no plus sign may stand before the port. -/
def hostOf? (host port : List Char) : Option Host :=
  match host with
  | '[' :: cs =>
    if cs.getLast? = some ']' ∧ port.all Char.isDigit then Host.parseV6? cs.dropLast else none
  | cs => Host.parse? cs

/-- The place that a text describes. -/
def parse (s : String) : Except EndpointError Endpoint :=
  match splitPort s.toList with
  | none => .error .noPort
  | some (host, port) =>
    match parsePort? port with
    | none => .error .badPort
    | some n =>
      match hostOf? host port with
      | none => .error .unknownHost
      | some h => if h.isOpen then .ok ⟨h, n⟩ else .error .foreignHost

/-- Is there no room for a listener at one endpoint beside one at the other? -/
def overlaps (a b : Endpoint) : Bool := a.port == b.port && a.host.overlaps b.host

end Endpoint

end RecordGateway
