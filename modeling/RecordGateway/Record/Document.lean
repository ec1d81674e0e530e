import RecordGateway.Json.Text
import RecordGateway.Json.Value
import RecordGateway.Number.Binary64
import RecordGateway.Number.Decimal

/-!
# Records on the wire

A record travels as a JSON object with a text `table` and an object `data`, or as the list of
these two.  Both may be missing, and other members of the object are passed over.  The values of
`data` are kept as they are written.  Of several faults the one that reading from left to right
meets first counts.
-/

namespace RecordGateway

open Json (Fault byte skipBlank)

/-- What a document says: the table, and the members of `data` in the order they stand in, their
values as they are written. -/
structure Document where
  table : String
  members : List (String × String)
  deriving DecidableEq, Repr

namespace Document

/-- The number that bytes begin with, up to where `rest` is left, as characters. -/
def written (s rest : List UInt8) : List Char :=
  (s.take (s.length - rest.length)).map fun b ↦ Char.ofNat b.toNat

/-- Is a number out of range?  It is if the digits that fit into a word, as a double, and the
double nearest to their power of ten have an infinite product. -/
def outOfRange (d : Decimal) : Bool :=
  let (n, e) := d.clip Decimal.fitsWord
  let power : Binary64 := ⟨UInt64.ofNat (Binary64.nearestDecimal 1 e)⟩
  n != 0 && 0 ≤ e &&
    (!power.isFinite || (Binary64.ofInt n).productMagnitude power == Binary64.infinityBits)

/-- Do characters make a number that is out of range? -/
def overflows (cs : List Char) : Bool := (Decimal.parse? cs).any outOfRange

/-- The fault of a number of which `s` follows the sign, where no number is asked for. -/
def faultOfNumber (s : List UInt8) : Fault :=
  match Json.skipUnsigned .truncated s with
  | .error e => e
  | .ok r => if overflows (written s r) then .malformed else .mistyped

/-- The fault of a value that begins with the byte `b` and is not of the type asked for.  Words,
numbers and texts are read to their end before the type counts; an opening bracket is enough. -/
def faultOfType (b : UInt8) (s : List UInt8) : Fault :=
  if b = byte '[' ∨ b = byte '{' then .mistyped
  else if b = byte '-' then faultOfNumber s
  else if Json.isDigit b then faultOfNumber (b :: s)
  else if b = byte '"' then
    match Json.readText s with
    | .error e => e
    | .ok _ => .mistyped
  else
    match Json.skipScalar b s with
    | .error e => e
    | .ok _ => .mistyped

/-- Reads a value that has to be a text. -/
def readText (s : List UInt8) : Except Fault (String × List UInt8) :=
  match skipBlank s with
  | [] => .error .truncated
  | b :: t => if b = byte '"' then Json.readText t else .error (faultOfType b t)

/-- Reads a value of any type as it is written. -/
def readRaw (s : List UInt8) : Except Fault (String × List UInt8) :=
  match Json.skipValue (skipBlank s) with
  | .error e => .error e
  | .ok r =>
    match Text.Utf8.decode ((skipBlank s).take ((skipBlank s).length - r.length)) with
    | none => .error .malformed
    | some t => .ok (t, r)

/-- Reads the colon behind a key. -/
def readColon (s : List UInt8) : Except Fault (List UInt8) :=
  match skipBlank s with
  | [] => .error .truncated
  | c :: t => if c = byte ':' then .ok t else .error .malformed

/-- Reads a key behind its opening quote, or finds that none is there. -/
def readKey (s : List UInt8) : Except Fault (String × List UInt8) :=
  match skipBlank s with
  | [] => .error .truncated
  | q :: t => if q = byte '"' then Json.readText t else .error .malformed

/-- Reads up to the next key of an object, or to the end of the object.  A comma stands before
every key but the first. -/
def readNextKey (first : Bool) (s : List UInt8) : Except Fault (Option String × List UInt8) :=
  match skipBlank s with
  | [] => .error .truncated
  | b :: t =>
    if b = byte '}' then .ok (none, t)
    else if first then
      match readKey (b :: t) with
      | .error e => .error e
      | .ok (k, r) => .ok (some k, r)
    else if b = byte ',' then
      match readKey t with
      | .error e => .error e
      | .ok (k, r) => .ok (some k, r)
    else .error .malformed

theorem length_readText {s : List UInt8} {r : String × List UInt8} (h : readText s = .ok r) :
    r.2.length < s.length := by
  unfold readText at h
  split at h
  · cases h
  next hs =>
    split at h
    · exact Nat.lt_trans (Json.length_readText h) (Json.length_of_skipBlank hs)
    · cases h

theorem length_readRaw {s : List UInt8} {r : String × List UInt8} (h : readRaw s = .ok r) :
    r.2.length < s.length := by
  unfold readRaw at h
  split at h
  · cases h
  next hv =>
    split at h
    · cases h
    · cases h
      exact Nat.lt_of_lt_of_le (Json.length_skipValue hv) (Json.length_skipBlank_le s)

theorem length_readColon {s r : List UInt8} (h : readColon s = .ok r) :
    r.length < s.length := by
  unfold readColon at h
  split at h
  · cases h
  next hs =>
    split at h
    · cases h
      exact Json.length_of_skipBlank hs
    · cases h

theorem length_readKey {s : List UInt8} {r : String × List UInt8} (h : readKey s = .ok r) :
    r.2.length < s.length := by
  unfold readKey at h
  split at h
  · cases h
  next hs =>
    split at h
    · exact Nat.lt_trans (Json.length_readText h) (Json.length_of_skipBlank hs)
    · cases h

theorem length_readNextKey {first : Bool} {s : List UInt8} {r : Option String × List UInt8}
    (h : readNextKey first s = .ok r) : r.2.length < s.length := by
  unfold readNextKey at h
  split at h
  · cases h
  next hs =>
    have hlt := Json.length_of_skipBlank hs
    split at h
    · cases h
      exact hlt
    split at h
    · split at h
      · cases h
      next hk =>
        cases h
        have := length_readKey hk
        simp only [List.length_cons] at this
        simp only
        omega
    split at h
    · split at h
      · cases h
      next hk =>
        cases h
        exact Nat.lt_trans (length_readKey hk) hlt
    · cases h

/-- Reads the members of `data` behind its opening bracket; `done` are those before, the last of
them first. -/
def readMembers (first : Bool) (done : List (String × String)) (s : List UInt8) :
    Except Fault (List (String × String) × List UInt8) :=
  match _hk : readNextKey first s with
  | .error e => .error e
  | .ok (none, r) => .ok (done.reverse, r)
  | .ok (some k, r) =>
    match _hc : readColon r with
    | .error e => .error e
    | .ok r₁ =>
      match _hv : readRaw r₁ with
      | .error e => .error e
      | .ok (v, r₂) => readMembers false ((k, v) :: done) r₂
termination_by s.length
decreasing_by
  have := length_readNextKey _hk
  have := length_readColon _hc
  have := length_readRaw _hv
  simp only at *
  omega

theorem length_readMembers {first : Bool} {done : List (String × String)} {s : List UInt8}
    {r : List (String × String) × List UInt8} (h : readMembers first done s = .ok r) :
    r.2.length < s.length := by
  fun_induction readMembers first done s
  case case1 | case3 | case4 => cases h
  case case2 hk =>
    cases h
    exact length_readNextKey hk
  case case5 hk _ hc _ _ hv ih =>
    have := ih h
    have := length_readNextKey hk
    have := length_readColon hc
    have := length_readRaw hv
    simp only at *
    omega

/-- Reads a value that has to be an object of data. -/
def readData (s : List UInt8) : Except Fault (List (String × String) × List UInt8) :=
  match skipBlank s with
  | [] => .error .truncated
  | b :: t => if b = byte '{' then readMembers true [] t else .error (faultOfType b t)

theorem length_readData {s : List UInt8} {r : List (String × String) × List UInt8}
    (h : readData s = .ok r) : r.2.length < s.length := by
  unfold readData at h
  split at h
  · cases h
  next hs =>
    split at h
    · exact Nat.lt_trans (length_readMembers h) (Json.length_of_skipBlank hs)
    · cases h

/-- What the members of a document read so far say. -/
structure Gathered where
  table? : Option String
  members? : Option (List (String × String))

/-- The document; a missing table is empty, and missing data has no members. -/
def Gathered.finish (p : Gathered) : Document := ⟨p.table?.getD "", p.members?.getD []⟩

/-- Reads the value of the member `k`, behind its key.  Neither `table` nor `data` may come
twice. -/
def readMember (p : Gathered) (k : String) (s : List UInt8) :
    Except Fault (Gathered × List UInt8) :=
  if k = "table" then
    if p.table?.isSome then .error .mistyped
    else
      match readColon s with
      | .error e => .error e
      | .ok s₁ =>
        match readText s₁ with
        | .error e => .error e
        | .ok (t, r) => .ok ({ p with table? := some t }, r)
  else if k = "data" then
    if p.members?.isSome then .error .mistyped
    else
      match readColon s with
      | .error e => .error e
      | .ok s₁ =>
        match readData s₁ with
        | .error e => .error e
        | .ok (ms, r) => .ok ({ p with members? := some ms }, r)
  else
    match readColon s with
    | .error e => .error e
    | .ok s₁ =>
      match Json.skipValue s₁ with
      | .error e => .error e
      | .ok r => .ok (p, r)

theorem length_readMember {p : Gathered} {k : String} {s : List UInt8}
    {r : Gathered × List UInt8} (h : readMember p k s = .ok r) : r.2.length < s.length := by
  unfold readMember at h
  split at h
  · split at h
    · cases h
    split at h
    · cases h
    next hc =>
      split at h
      · cases h
      next ht =>
        cases h
        exact Nat.lt_trans (length_readText ht) (length_readColon hc)
  split at h
  · split at h
    · cases h
    split at h
    · cases h
    next hc =>
      split at h
      · cases h
      next hd =>
        cases h
        exact Nat.lt_trans (length_readData hd) (length_readColon hc)
  · split at h
    · cases h
    next hc =>
      split at h
      · cases h
      next hv =>
        cases h
        exact Nat.lt_trans (Json.length_skipValue hv) (length_readColon hc)

/-- Reads a document written as an object, behind the opening bracket. -/
def readObject (first : Bool) (p : Gathered) (s : List UInt8) :
    Except Fault (Document × List UInt8) :=
  match _hk : readNextKey first s with
  | .error e => .error e
  | .ok (none, r) => .ok (p.finish, r)
  | .ok (some k, r) =>
    match _hm : readMember p k r with
    | .error e => .error e
    | .ok (p, r₁) => readObject false p r₁
termination_by s.length
decreasing_by
  have := length_readNextKey _hk
  have := length_readMember _hm
  simp only at *
  omega

/-- Reads the end of a document written as a list. -/
def readListEnd (s : List UInt8) : Except Fault (List UInt8) :=
  match skipBlank s with
  | [] => .error .truncated
  | b :: t => if b = byte ']' then .ok t else .error .malformed

/-- Reads the data of a document written as a list, behind the table. -/
def readListData (table : String) (s : List UInt8) : Except Fault (Document × List UInt8) :=
  match skipBlank s with
  | [] => .error .truncated
  | b :: t =>
    if b = byte ']' then .ok (⟨table, []⟩, t)
    else if b = byte ',' then
      match skipBlank t with
      | [] => .error .truncated
      | c :: u =>
        if c = byte ']' then .error .malformed
        else
          match readData (c :: u) with
          | .error e => .error e
          | .ok (ms, r) =>
            match readListEnd r with
            | .error e => .error e
            | .ok r => .ok (⟨table, ms⟩, r)
    else .error .malformed

/-- Reads a document written as a list, behind the opening bracket. -/
def readList (s : List UInt8) : Except Fault (Document × List UInt8) :=
  match skipBlank s with
  | [] => .error .truncated
  | b :: t =>
    if b = byte ']' then .ok (⟨"", []⟩, t)
    else
      match readText (b :: t) with
      | .error e => .error e
      | .ok (table, r) => readListData table r

/-- Reads the document at the front. -/
def readPrefix (s : List UInt8) : Except Fault (Document × List UInt8) :=
  match skipBlank s with
  | [] => .error .truncated
  | b :: t =>
    if b = byte '{' then readObject true ⟨none, none⟩ t
    else if b = byte '[' then readList t
    else .error (faultOfType b t)

/-- The document that the bytes are; only blanks may follow it. -/
def read (s : List UInt8) : Except Fault Document :=
  match readPrefix s with
  | .error e => .error e
  | .ok (d, r) => if (skipBlank r).isEmpty then .ok d else .error .malformed

end Document

end RecordGateway
