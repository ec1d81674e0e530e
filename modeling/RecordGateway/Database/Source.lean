import RecordGateway.Json.Scan
import RecordGateway.Text.Encoding

/-!
# Sources

A source names a file, or a database in memory, and says behind a question mark how to open it.
-/

namespace RecordGateway.Text.Percent

/-! ## Percent encoding

In a source and in the name of a file a percent sign and two hexadecimal digits stand for one
byte.  A percent sign that is not followed by two such digits stands for itself. -/

/-- The bytes that bytes with percent signs stand for. -/
def decodeBytes : List UInt8 → List UInt8
  | [] => []
  | b :: bs =>
    if b = 0x25 then
      match bs with
      | h :: l :: rest =>
        match Json.hexValue? h, Json.hexValue? l with
        | some x, some y => UInt8.ofNat (16 * x + y) :: decodeBytes rest
        | _, _ => b :: decodeBytes (h :: l :: rest)
      | rest => b :: rest
    else b :: decodeBytes bs

/-- The text that characters with percent signs stand for, if their bytes are one. -/
def decode? (cs : List Char) : Option String :=
  Utf8.decode (decodeBytes (Utf8.encode (String.ofList cs)))

/-- The text that characters of a form stand for, in which a plus sign is written for a space. -/
def decodeForm? (cs : List Char) : Option String :=
  decode? (cs.map fun c ↦ if c = '+' then ' ' else c)

/-- Bytes without a percent sign stand for themselves. -/
theorem decodeBytes_of_not_mem {bs : List UInt8} (h : 0x25 ∉ bs) : decodeBytes bs = bs := by
  induction bs with
  | nil => rfl
  | cons b bs ih =>
    simp only [List.mem_cons, not_or] at h
    unfold decodeBytes
    rw [if_neg (Ne.symm h.1), ih h.2]

end RecordGateway.Text.Percent

namespace RecordGateway.Database

/-! ## What a source says -/

/-- What a database may be used for. -/
structure Access where
  /-- It may only be read. -/
  readOnly : Bool := false
  /-- Its file is made if it is not there. -/
  create : Bool := false
  /-- It is kept in memory. -/
  memory : Bool := false
  deriving DecidableEq, Repr

/-- What a source says. -/
structure Source where
  /-- The name of the file. -/
  name : String
  access : Access := {}
  /-- Is the file taken for one that nobody changes? -/
  immutable : Bool := false
  /-- The name of the layer that files are reached through, if one is given. -/
  layer? : Option String := none
  deriving DecidableEq, Repr

namespace Source

/-- A text without a word at its front, as often as the word stands there. -/
def withoutWord (word cs : List Char) : List Char :=
  if _h : word.isPrefixOf cs ∧ word ≠ [] then withoutWord word (cs.drop word.length) else cs
termination_by cs.length
decreasing_by
  have hp := (List.isPrefixOf_iff_prefix.1 _h.1).length_le
  have := List.length_pos_iff.2 _h.2
  simp only [List.length_drop]
  omega

/-- What stands before the first place of a character, and what stands behind it, if it stands
anywhere. -/
def splitAt (c : Char) (cs : List Char) : List Char × Option (List Char) :=
  (cs.takeWhile (· != c),
    match cs.dropWhile (· != c) with
    | [] => none
    | _ :: r => some r)

/-- The parameters that a text lists, of each what stands before and behind its first equals sign.
Empty ones do not count. -/
def parameters (cs : List Char) : List (List Char × List Char) :=
  ((cs.splitOn '&').filter (!·.isEmpty)).map fun p ↦
    let (key, value) := splitAt '=' p
    (key, value.getD [])

/-- The source with what a parameter asks for; an unknown one is refused.  What was once asked for
stays, even if a later parameter asks for something else. -/
def applyParameter (s : Source) (key value : String) : Option Source :=
  if key = "mode" then
    if value = "ro" then some { s with access := { s.access with readOnly := true } }
    else if value = "rw" then some s
    else if value = "rwc" then some { s with access := { s.access with create := true } }
    else if value = "memory" then some { s with access := { s.access with memory := true } }
    else none
  else if key = "cache" then
    if value = "private" ∨ value = "shared" then some s else none
  else if key = "immutable" then
    if value = "true" ∨ value = "1" then some { s with immutable := true }
    else if value = "false" ∨ value = "0" then some { s with immutable := false }
    else none
  else if key = "vfs" then some { s with layer? := some value }
  else none

/-- The source with what parameters ask for, as they are written. -/
def applyParameters (s : Source) : List (List Char × List Char) → Option Source
  | [] => some s
  | (key, value) :: ps =>
    match Text.Percent.decodeForm? key, Text.Percent.decodeForm? value with
    | some k, some v => (s.applyParameter k v).bind (applyParameters · ps)
    | _, _ => none

/-- What a text says. -/
def parse? (text : String) : Option Source := do
  let cs := withoutWord "sqlite:".toList (withoutWord "sqlite://".toList text.toList)
  let (name, rest) := splitAt '?' cs
  let source : Source ←
    if name = ":memory:".toList then some { name := ":memory:", access := { memory := true } }
    else (Text.Percent.decode? name).map ({ name := · })
  source.applyParameters (parameters (rest.getD []))

end Source

end RecordGateway.Database
