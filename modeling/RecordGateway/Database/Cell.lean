import RecordGateway.Field.Value
import RecordGateway.Number.Stepwise

/-!
# Cells and affinities

What SQLite keeps in a cell, and how the declared type of a column changes what is put into it.
Truth values are kept as 0 and 1, and a double that is no number is kept as null.
-/

namespace RecordGateway.Database

/-- What a cell of a table holds. -/
inductive Cell
  | null
  | int (n : Int64)
  | real (x : Binary64)
  | text (s : String)
  /-- The time at which the row was made. -/
  | now
  deriving DecidableEq, Repr, Inhabited

/-- What is passed to the database for a value. -/
def Cell.ofValue : Value → Cell
  | .bool b => .int (if b then 1 else 0)
  | .int n => .int n
  | .float x => if x.isNaN then .null else .real x
  | .string s => .text s
  | .null | .invalid => .null

/-- What a column does with values of other types. -/
inductive Affinity
  | integer
  | text
  | blob
  | real
  | numeric
  deriving DecidableEq, Repr

/-- Does a word stand somewhere in a text? -/
def occursIn (word : List Char) : List Char → Bool
  | [] => word.isEmpty
  | c :: cs => word.isPrefixOf (c :: cs) || occursIn word cs

/-- The affinity of a declared type, which depends on the words that occur in it. -/
def Affinity.ofType (type : String) : Affinity :=
  let t := type.toList.map Char.toUpper
  let has (word : String) : Bool := occursIn word.toList t
  if has "INT" then .integer
  else if has "CHAR" || has "CLOB" || has "TEXT" then .text
  else if has "BLOB" || t.isEmpty then .blob
  else if has "REAL" || has "FLOA" || has "DOUB" then .real
  else .numeric

/-- The integer that a double is, if it is one of 64 bits and not the least or the greatest. -/
def integral? (x : Binary64) : Option Int64 :=
  match x.toInt? with
  | some n =>
    if Int64.minValue.toInt < n ∧ n < Int64.maxValue.toInt then some (Int64.ofInt n) else none
  | none => none

/-- Blanks that may stand around a number in a text. -/
def isNumberBlank (c : Char) : Bool := c == ' ' || (9 ≤ c.toNat && c.toNat ≤ 13)

/-- The number that a text is: digits with a point anywhere among them, a sign and an exponent. -/
def looseNumber? (cs : List Char) : Option Decimal := do
  let cs := ((cs.dropWhile isNumberBlank).reverse.dropWhile isNumberBlank).reverse
  let (negative, cs) := Decimal.takeExponentSign cs
  let whole := cs.takeWhile Char.isDigit
  let (fraction, cs) : Option (List Char) × List Char :=
    match cs.dropWhile Char.isDigit with
    | '.' :: r => (some (r.takeWhile Char.isDigit), r.dropWhile Char.isDigit)
    | r => (none, r)
  let (exponent, cs) ← Decimal.takeExponent cs
  if cs.isEmpty && !(whole ++ fraction.getD []).isEmpty then
    some ⟨negative, whole, fraction, exponent⟩
  else none

/-- A text that is a number as that number. -/
def numberOfText (s : String) : Cell :=
  match looseNumber? s.toList with
  | none => .text s
  | some d =>
    if d.isWhole && Int64.minValue.toInt ≤ d.toInt && d.toInt ≤ Int64.maxValue.toInt then
      .int (Int64.ofInt d.toInt)
    else .real d.toBinary64Stepwise

/-- A double as an integer where that changes nothing. -/
def preferInt : Cell → Cell
  | .real x =>
    match integral? x with
    | some n => .int n
    | none => .real x
  | c => c

/-- An integer as a double. -/
def preferReal : Cell → Cell
  | .int n => .real (Binary64.ofInt n.toInt)
  | c => c

/-- What a column keeps of what is put into it. -/
def Affinity.apply : Affinity → Cell → Cell
  | .text, .int n => .text (toString n.toInt)
  | .text, .real x => .text x.text
  | .integer, .text s | .numeric, .text s => preferInt (numberOfText s)
  | .integer, .real x | .numeric, .real x => preferInt (.real x)
  | .real, .text s => preferReal (preferInt (numberOfText s))
  | .real, .real x => preferReal (preferInt (.real x))
  | .real, .int n => preferReal (.int n)
  | _, c => c

end RecordGateway.Database
