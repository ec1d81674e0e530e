import RecordGateway.Number.Decimal
import RecordGateway.Text.Basic

/-!
# Commands

The two kinds of statements that a database is given, as it reads them from their text.
-/

namespace RecordGateway.Database

/-! ## Reserved words

Words that cannot name a column unless they are quoted.  All other words of the language fall back
to names. -/

/-- The reserved words, in small letters. -/
def reservedWords : List String :=
  ["add", "all", "alter", "and", "as", "autoincrement", "between", "case", "check", "collate",
   "commit", "constraint", "create", "default", "deferrable", "delete", "distinct", "drop", "else",
   "escape", "except", "exists", "foreign", "from", "group", "having", "in", "index", "insert",
   "intersect", "into", "is", "isnull", "join", "limit", "not", "nothing", "notnull", "null", "on",
   "or", "order", "primary", "references", "returning", "select", "set", "table", "then", "to",
   "transaction", "union", "unique", "update", "using", "values", "when", "where"]

/-- Is a word reserved, in any case? -/
def isReserved (word : List Char) : Bool :=
  reservedWords.contains (String.ofList (word.map Char.toLower))

/-! ## Statements -/

/-- What a row has in a column that it was given no value for. -/
inductive Filling
  | null
  /-- The number of the row. -/
  | rowid
  /-- The time at which the row is made. -/
  | now
  deriving DecidableEq, Repr

/-- A column as it is declared. -/
structure Column where
  name : String
  type : String
  filling : Filling
  deriving DecidableEq, Repr

/-- A value of a row as it is written. -/
inductive Operand
  | null
  /-- The value that is passed under a number, counted from one. -/
  | parameter (number : Nat)
  deriving DecidableEq, Repr

inductive Command
  /-- Makes a table, unless there is one of that name. -/
  | createTable (name : String) (columns : List Column)
  /-- Adds a row with values in the columns listed. -/
  | insertRow (table : String) (columns : List String) (values : List Operand)
  deriving DecidableEq, Repr

namespace Command

/-- What follows a text at the front. -/
def after? : List Char → List Char → Option (List Char)
  | [], cs => some cs
  | _ :: _, [] => none
  | w :: ws, c :: cs => if w = c then after? ws cs else none

/-- What stands before the next character of a kind, and what follows it. -/
def upTo? (c : Char) : List Char → Option (List Char × List Char)
  | [] => none
  | d :: ds => if d = c then some ([], ds) else (upTo? c ds).map fun r ↦ (d :: r.1, r.2)

/-- A name that needs no quotes: letters and digits, a letter first, and no reserved word. -/
def readName? (cs : List Char) : Option String :=
  match cs with
  | [] => none
  | c :: _ =>
    if c.isAlpha && cs.all Char.isAlphanum && !isReserved cs then some (String.ofList cs) else none

/-- How the cells of a column are filled, by what its declaration says behind the type. -/
def readFilling? (cs : List Char) : Option Filling :=
  if cs.isEmpty then some .null
  else if cs = "PRIMARY KEY ASC ON CONFLICT REPLACE AUTOINCREMENT".toList then some .rowid
  else if cs = "DEFAULT CURRENT_TIMESTAMP".toList then some .now
  else none

/-- The declaration of a column: its name, a word for its type, and how its cells are filled. -/
def readColumn? (cs : List Char) : Option Column := do
  let cs := cs.dropWhile (· == ' ')
  let (name, rest) ← upTo? ' ' cs
  let name ← readName? name
  let type := rest.takeWhile (· != ' ')
  let filling ← readFilling? ((rest.dropWhile (· != ' ')).drop 1)
  if type.isEmpty then none else some ⟨name, String.ofList type, filling⟩

/-- Is this a constraint that has a name and says nothing? -/
def isBareConstraint (cs : List Char) : Bool :=
  match (cs.dropWhile (· == ' ')).splitOn ' ' with
  | [word, name] =>
    Text.sameIgnoringCase (String.ofList word) "constraint" && (readName? name).isSome
  | _ => false

/-- The parts of a declaration: columns, and behind the last of them constraints. -/
def readColumns? : List (List Char) → Option (List Column)
  | [] => some []
  | cs :: rest =>
    match readColumn? cs with
    | some c => (readColumns? rest).map (c :: ·)
    | none => if (cs :: rest).all isBareConstraint then some [] else none

/-- The greatest number under which a value can be passed. -/
def maxParameters : Nat := 32766

/-- A value of a row. -/
def readOperand? : List Char → Option Operand
  | '?' :: ds =>
    let number := Decimal.ofDigits ds
    if !ds.isEmpty && ds.all Char.isDigit && 0 < number && number ≤ maxParameters then
      some (.parameter number)
    else none
  | cs => if cs = "NULL".toList then some .null else none

/-- Reads what makes a table. -/
def readCreate? (cs : List Char) : Option Command := do
  let rest ← after? "CREATE TABLE IF NOT EXISTS \"".toList cs
  let (name, rest) ← upTo? '"' rest
  let rest ← after? " (".toList rest
  let (body, rest) ← upTo? ')' rest
  let columns ← readColumns? (body.splitOn ',')
  if rest = [';'] && !columns.isEmpty then some (.createTable (String.ofList name) columns)
  else none

/-- Reads what adds a row. -/
def readInsert? (cs : List Char) : Option Command := do
  let rest ← after? "INSERT INTO \"".toList cs
  let (name, rest) ← upTo? '"' rest
  let rest ← after? " (".toList rest
  let (columns, rest) ← upTo? ')' rest
  let columns ← (columns.splitOn ',').mapM readName?
  let rest ← after? " VALUES (".toList rest
  let (values, rest) ← upTo? ')' rest
  let values ← (values.splitOn ',').mapM readOperand?
  if rest = [';'] then some (.insertRow (String.ofList name) columns values) else none

/-- The command that a text is. -/
def read? (s : String) : Option Command := readCreate? s.toList <|> readInsert? s.toList

end Command

end RecordGateway.Database
