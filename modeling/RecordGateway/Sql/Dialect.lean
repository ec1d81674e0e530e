import RecordGateway.Field.Value
import RecordGateway.Text.Quoted

/-!
# SQL dialects

The two databases that statements are written for.  They differ in the types of columns and in
the marks for values that are passed beside the text.
-/

namespace RecordGateway

/-! ## Errors of statements

Why no statement can be made of a record, or none can be run in a dialect. -/

inductive SqlError
  | unsupportedDialect (tag : String)
  | unsupportedType (kind : Kind) (dialect : String)
  | emptyRecord
  | invalidRecord
  | reservedColumn (name : String)
  | missingBinding (name : String)
  deriving DecidableEq, Repr

namespace SqlError

def message : SqlError → String
  | unsupportedDialect tag => "unsupported sql dialect " ++ Text.quoted tag
  | unsupportedType kind dialect => kind.name ++ " has no column type in dialect " ++ dialect
  | emptyRecord => "cannot insert a record without fields"
  | invalidRecord => "record failed validation"
  | reservedColumn name => "field " ++ Text.quoted name ++ " collides with a generated column"
  | missingBinding name => "no value bound for placeholder :" ++ name

end SqlError

/-! ## The two dialects -/

inductive Dialect
  | sqlite
  | postgres
  deriving DecidableEq, Repr

namespace Dialect

def all : List Dialect := [sqlite, postgres]

/-- The word that a dialect goes by. -/
def tag : Dialect → String
  | sqlite => "sqlite3"
  | postgres => "postgres"

/-- The dialect that goes by a word. -/
def ofTag (s : String) : Except SqlError Dialect :=
  if s = "sqlite3" then .ok sqlite
  else if s = "postgres" then .ok postgres
  else .error (.unsupportedDialect s)

@[simp] theorem ofTag_tag (d : Dialect) : ofTag d.tag = .ok d := by cases d <;> rfl

theorem ofTag_eq_ok_iff {s : String} {d : Dialect} : ofTag s = .ok d ↔ s = d.tag := by
  constructor
  · intro h
    unfold ofTag at h
    split at h
    · cases h
      assumption
    split at h
    · cases h
      assumption
    · cases h
  · rintro rfl
    exact ofTag_tag d

/-- The type of a column of a kind.  No column holds nothing but null, and none holds a value that
was not recognised. -/
def columnType : Dialect → Kind → Except SqlError String
  | sqlite, .bool => .ok "BOOL"
  | sqlite, .int => .ok "INT"
  | sqlite, .float => .ok "FLOAT"
  | sqlite, .string => .ok "TEXT"
  | sqlite, .primaryKey => .ok "INTEGER PRIMARY KEY ASC ON CONFLICT REPLACE AUTOINCREMENT"
  | sqlite, .timestamp => .ok "DATETIME DEFAULT CURRENT_TIMESTAMP"
  | postgres, .bool => .ok "BOOLEAN"
  | postgres, .int => .ok "BIGINT"
  | postgres, .float => .ok "FLOAT8"
  | postgres, .string => .ok "TEXT"
  | postgres, .primaryKey => .ok "BIGSERIAL PRIMARY KEY"
  | postgres, .timestamp => .ok "TIMESTAMP WITH TIME ZONE DEFAULT (now() at time zone 'utc')"
  | d, .null => .error (.unsupportedType .null d.tag)
  | d, .invalid => .error (.unsupportedType .invalid d.tag)

/-- The character that marks stand behind. -/
def mark : Dialect → Char
  | sqlite => '?'
  | postgres => '$'

/-- The mark for the value of the given number. -/
def placeholder (d : Dialect) (index : Nat) : String :=
  String.ofList (d.mark :: (toString index).toList)

end Dialect

end RecordGateway
