import RecordGateway.Field.Value
import RecordGateway.NameMap

/-!
# Records

A record is what a device reports at one time: the name of a table and values for some fields.
Two records have the same shape if one table can hold both.
-/

namespace RecordGateway.Identifier

/-! ## Identifiers

The texts that may name a table or a column: ASCII letters, at least one, and then at most one
ASCII digit.  Nothing in such a text needs quoting in SQL. -/

/-- Letters first, and no more than a single digit behind them. -/
def isValid (s : String) : Bool :=
  !(s.toList.takeWhile Char.isAlpha).isEmpty &&
    match s.toList.dropWhile Char.isAlpha with
    | [] => true
    | [c] => c.isDigit
    | _ :: _ :: _ => false

end RecordGateway.Identifier

namespace RecordGateway

/-! ## Records and their shapes -/

/-- A table's name, and the values of fields by their names. -/
structure Record where
  /-- The table that the record belongs to. -/
  table : String
  /-- The values of its fields. -/
  fields : NameMap Value
  deriving DecidableEq, Inhabited

namespace Record

/-- The record of a list of fields; of those with one name the last counts. -/
def ofList (table : String) (fields : List (String × Value)) : Record :=
  ⟨table, NameMap.ofList fields⟩

/-- The names of the fields, ascending. -/
def columns (r : Record) : List String := r.fields.keys

def size (r : Record) : Nat := r.fields.size

def isEmpty (r : Record) : Bool := r.size == 0

/-- The value of a field. -/
def get? (r : Record) (name : String) : Option Value := r.fields.get? name

/-- A record whose names are identifiers and whose values were all recognised. -/
def isValid (r : Record) : Bool :=
  Identifier.isValid r.table &&
    r.fields.entries.all fun f ↦ Identifier.isValid f.1 && f.2.isClassified

/-- Same table, as many fields, and every field of the one is a field of the other. -/
def sameShape (a b : Record) : Bool :=
  a.table == b.table && a.size == b.size && a.columns.all b.fields.contains

end Record

end RecordGateway
