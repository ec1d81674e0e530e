import RecordGateway.Record.Basic
import RecordGateway.Sql.Dialect
import RecordGateway.Text.Basic

/-!
# Statements for records

The statement that makes a table for a record, and the one that puts a record into its table.
Names are written without quotes, which is right because they are identifiers; values never
become part of a text.  Every table has two columns of its own, `rowid` and `created`, which no
field may be named like.
-/

namespace RecordGateway

/-- A statement in which values are named, with the values. -/
structure NamedStatement where
  /-- The text, in which `:name` stands for a value. -/
  sql : String
  /-- The values of the names. -/
  bindings : NameMap Value
  deriving DecidableEq

namespace Record

/-- The columns that every table has. -/
def generatedColumns : List (String × Kind) :=
  [("rowid", .primaryKey), ("created", .timestamp)]

/-- Is this, in any case of letters, the name of a column that every table has? -/
def isGenerated (name : String) : Bool :=
  generatedColumns.any fun c ↦ Text.sameIgnoringCase c.1 name

/-- Refuses a record with a field named like a generated column, and names the least of them. -/
def checkGenerated (r : Record) : Except SqlError Unit :=
  match r.columns.find? isGenerated with
  | some name => .error (.reservedColumn name)
  | none => .ok ()

/-- The columns that a table made for a record has: its own two, and one for every field that is
not null. -/
def tableColumns (r : Record) : List (String × Kind) :=
  generatedColumns ++ (r.fields.entries.filter fun f ↦ f.2.kind != .null).map
    fun f ↦ (f.1, f.2.kind)

/-- The declarations of columns in a dialect. -/
def declarations (d : Dialect) : List (String × Kind) → Except SqlError (List String)
  | [] => .ok []
  | c :: cs =>
    match d.columnType c.2 with
    | .error e => .error e
    | .ok t =>
      match declarations d cs with
      | .error e => .error e
      | .ok ds => .ok ((c.1 ++ " " ++ t) :: ds)

/-- The text that makes a table. -/
def createText (table : String) (declarations : List String) : String :=
  "CREATE TABLE IF NOT EXISTS \"" ++ table ++ "\" (" ++ String.intercalate ", " declarations ++ ");"

/-- The statement that makes the table of a record if it is not there. -/
def createIn (r : Record) (d : Dialect) : Except SqlError String :=
  if !r.isValid then .error .invalidRecord
  else
    match r.checkGenerated with
    | .error e => .error e
    | .ok () =>
      match declarations d r.tableColumns with
      | .error e => .error e
      | .ok ds => .ok (createText r.table ds)

/-- The statement that makes the table of a record, in the dialect that goes by `tag`. -/
def create (r : Record) (tag : String) : Except SqlError String :=
  match Dialect.ofTag tag with
  | .error e => .error e
  | .ok d => r.createIn d

/-- The text that puts named values into columns of the same names. -/
def insertText (table : String) (columns : List String) : String :=
  "INSERT INTO \"" ++ table ++ "\" (" ++ String.intercalate "," columns ++ ") VALUES ("
    ++ String.intercalate "," (columns.map (":" ++ ·)) ++ ");"

/-- The statement that puts a record into its table, with its columns listed in a given order. -/
def insertListing (r : Record) (columns : List String) : Except SqlError NamedStatement :=
  if !r.isValid then .error .invalidRecord
  else if r.isEmpty then .error .emptyRecord
  else
    match r.checkGenerated with
    | .error e => .error e
    | .ok () => .ok ⟨insertText r.table columns, r.fields⟩

/-- The statement that puts a record into its table, its columns as its fields are listed, which may
be in any order. -/
def insert (r : Record) (listing : r.fields.Listing := .ascending r.fields) :
    Except SqlError NamedStatement :=
  r.insertListing listing.names

end Record

end RecordGateway
