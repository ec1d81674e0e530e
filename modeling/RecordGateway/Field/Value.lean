import RecordGateway.Number.Binary64
import RecordGateway.Text.Basic
import RecordGateway.Text.Quoted

/-!
# Field values

What a field of a record may hold, and the kinds that columns are declared by.
-/

namespace RecordGateway

/-- The kinds of columns: those of values, and the two that every table has of its own. -/
inductive Kind
  | invalid
  | null
  | bool
  | int
  | float
  | string
  | primaryKey
  | timestamp
  deriving DecidableEq, Repr

namespace Kind

/-- All kinds. -/
def all : List Kind := [invalid, null, bool, int, float, string, primaryKey, timestamp]

/-- How a message names a kind. -/
def name : Kind → String
  | invalid => "Invalid"
  | null => "Null"
  | bool => "Bool"
  | int => "Int"
  | float => "Float"
  | string => "String"
  | primaryKey => "PrimaryKey"
  | timestamp => "Timestamp"

end Kind

/-- The value of a field.  `invalid` stands for a value that was not recognised. -/
inductive Value
  | null
  | bool (b : Bool)
  | int (n : Int64)
  | float (x : Binary64)
  | string (s : String)
  | invalid
  deriving DecidableEq, Repr, Inhabited

namespace Value

/-- The kind of column that holds a value. -/
def kind : Value → Kind
  | null => .null
  | bool _ => .bool
  | int _ => .int
  | float _ => .float
  | string _ => .string
  | invalid => .invalid

/-- Was the value recognised? -/
def isClassified (v : Value) : Bool := v.kind != .invalid

@[simp] theorem isClassified_iff {v : Value} : v.isClassified = true ↔ v ≠ .invalid := by
  cases v <;> simp [isClassified, kind]

end Value

/-! ## Values from their literals

A literal, blanks around it aside, is one of the words `null`, `true` and `false`, a number, or a
text between double quotes.  A number without fraction and exponent is an integer of 64 bits or
nothing, and never a double; any other number is a double if it is finite.  What stands between
the quotes is kept as it is. -/

/-- A text that is no literal. -/
structure Unrecognised where
  /-- The text as it was given, with its blanks. -/
  literal : String
  deriving DecidableEq, Repr

/-- What is said about a text that is no literal. -/
def Unrecognised.message (e : Unrecognised) : String :=
  "unable to convert " ++ Text.quoted e.literal ++ " to a field value"

namespace Value

/-- The integers of 64 bits. -/
def inInt64 (n : Int) : Bool := Int64.minValue.toInt ≤ n && n ≤ Int64.maxValue.toInt

/-- The value of a written number. -/
def ofDecimal? (d : Decimal) : Option Value :=
  if d.isWhole then
    if inInt64 d.toInt then some (.int (Int64.ofInt d.toInt)) else none
  else
    let x := Binary64.ofDecimal d
    if x.isFinite then some (.float x) else none

/-- What stands between the quotes of a text that begins with a quote and ends with another. -/
def unquote? : List Char → Option (List Char)
  | '"' :: cs => if cs.getLast? = some '"' then some cs.dropLast else none
  | _ => none

/-- The value of a literal without blanks around it. -/
def ofTrimmed? (cs : List Char) : Option Value :=
  if cs = "null".toList then some .null
  else if cs = "true".toList then some (.bool true)
  else if cs = "false".toList then some (.bool false)
  else match Decimal.parse? cs with
    | some d => ofDecimal? d
    | none => (unquote? cs).map fun s ↦ .string (String.ofList s)

/-- The value of a literal, with or without blanks around it. -/
def infer (raw : String) : Except Unrecognised Value :=
  match ofTrimmed? (Text.trim raw.toList) with
  | some v => .ok v
  | none => .error ⟨raw⟩

end Value

end RecordGateway
