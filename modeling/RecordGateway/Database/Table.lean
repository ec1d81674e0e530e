import RecordGateway.Backend.Basic
import RecordGateway.Database.Cell
import RecordGateway.Database.Command
import RecordGateway.Text.Basic

/-!
# Tables

A database is a list of tables.  Tables and columns are found by their names without regard to
case.  A command either takes effect as a whole or fails and changes nothing.
-/

namespace RecordGateway.Database

/-! ## Rows

The rows of a table, each under a number of its own, in the order of the numbers.  A row takes the
place of one that has the same number. -/

/-- A row, with the number that it is kept under. -/
structure Row where
  number : Int64
  cells : List Cell
  deriving DecidableEq, Repr

/-- Rows in strictly ascending order of their numbers. -/
@[ext]
structure Rows where
  toList : List Row
  ascending : toList.Pairwise (fun a b ↦ a.number < b.number)

namespace Rows

instance : DecidableEq Rows := fun a b ↦
  decidable_of_iff (a.toList = b.toList) Rows.ext_iff.symm

/-- No rows. -/
def empty : Rows := ⟨[], .nil⟩

instance : EmptyCollection Rows := ⟨empty⟩

instance : Inhabited Rows := ⟨∅⟩

/-- Puts a row at its place among ascending rows, in the place of one of the same number. -/
def putRow (r : Row) : List Row → List Row
  | [] => [r]
  | s :: rs =>
    if r.number < s.number then r :: s :: rs
    else if r.number = s.number then r :: rs
    else s :: putRow r rs

theorem mem_putRow {r s : Row} {rs : List Row} (h : s ∈ putRow r rs) : s = r ∨ s ∈ rs := by
  induction rs with
  | nil => simpa [putRow] using h
  | cons d rs ih =>
    simp only [putRow] at h
    split at h
    · simpa using h
    · split at h
      · rcases List.mem_cons.1 h with h | h
        · exact .inl h
        · exact .inr (.tail _ h)
      · rcases List.mem_cons.1 h with h | h
        · exact .inr (h ▸ .head _)
        · exact (ih h).imp_right (.tail _)

theorem pairwise_putRow (r : Row) {rs : List Row}
    (h : rs.Pairwise (fun a b ↦ a.number < b.number)) :
    (putRow r rs).Pairwise (fun a b ↦ a.number < b.number) := by
  induction rs with
  | nil => simp [putRow]
  | cons d rs ih =>
    obtain ⟨hd, hs⟩ := List.pairwise_cons.1 h
    simp only [putRow]
    split
    next hlt =>
      refine List.pairwise_cons.2 ⟨fun e he ↦ ?_, h⟩
      rcases List.mem_cons.1 he with he | he
      · exact he ▸ hlt
      · exact Int64.lt_trans hlt (hd e he)
    next hlt =>
      split
      next heq => exact List.pairwise_cons.2 ⟨fun e he ↦ heq ▸ hd e he, hs⟩
      next hne =>
        refine List.pairwise_cons.2 ⟨fun e he ↦ ?_, ih hs⟩
        rcases mem_putRow he with he | he
        · have : ¬r.number.toInt < d.number.toInt := fun h ↦ hlt (Int64.lt_iff_toInt_lt.2 h)
          have : r.number.toInt ≠ d.number.toInt := fun h ↦ hne (Int64.toInt_inj.1 h)
          exact he ▸ Int64.lt_iff_toInt_lt.2 (by omega)
        · exact hd e he

/-- The rows with one more, in the place of the one that has its number. -/
def insert (rs : Rows) (r : Row) : Rows := ⟨putRow r rs.toList, pairwise_putRow r rs.ascending⟩

/-- The row inserted is there. -/
theorem mem_insert_self (rs : Rows) (r : Row) : r ∈ (rs.insert r).toList := by
  have (ss : List Row) : r ∈ putRow r ss := by
    induction ss with
    | nil => simp [putRow]
    | cons d ss ih =>
      simp only [putRow]
      split
      · exact .head _
      · split
        · exact .head _
        · exact .tail _ ih
  exact this rs.toList

end Rows

/-! ## Tables and columns -/

/-- A table with its rows. -/
structure Table where
  name : String
  columns : List Column
  rows : Rows
  /-- The greatest number that a row was ever kept under, and zero if all were below. -/
  greatest : Int64
  deriving DecidableEq

namespace Table

/-- The most columns that a table may have. -/
def maxColumns : Nat := 2000

/-- The column of a name. -/
def find? (t : Table) (name : String) : Option Column :=
  t.columns.find? fun c ↦ Text.sameIgnoringCase c.name name

/-- The names by which the number of a row can be given, unless a column has the name. -/
def numberNames : List String := ["rowid", "oid", "_rowid_"]

/-- Does a name stand for the number of a row? -/
def namesNumber (t : Table) (name : String) : Bool :=
  match t.find? name with
  | some c => c.filling == .rowid
  | none => numberNames.any fun n ↦ Text.sameIgnoringCase n name

/-- Can a row be given a value under a name? -/
def accepts (t : Table) (name : String) : Bool := (t.find? name).isSome || t.namesNumber name

/-- The number of the next row that none is given for, one above the greatest so far. -/
def nextNumber? (t : Table) : Option Int64 :=
  if t.greatest = Int64.maxValue then none else some (t.greatest + 1)

/-- The number of a new row, `values` being what it is given by names.  Of several values for it the
last one counts.  A value has to be an integer or turn into one without loss; null asks for the
next number. -/
def newNumber? (t : Table) (values : List (String × Cell)) : Option Int64 :=
  match (values.filter fun v ↦ t.namesNumber v.1).getLast? with
  | none => t.nextNumber?
  | some v =>
    match Affinity.numeric.apply v.2 with
    | .null => t.nextNumber?
    | .int n => some n
    | _ => none

/-- What a new row has in a column, `values` being what it is given by names of columns.  Of several
values for it the first one counts. -/
def newCell (number : Int64) (values : List (String × Cell)) (c : Column) : Cell :=
  match c.filling, values.find? fun v ↦ Text.sameIgnoringCase v.1 c.name with
  | .rowid, _ => .int number
  | _, some v => (Affinity.ofType c.type).apply v.2
  | .null, none => .null
  | .now, none => .now

/-- The table with a new row, which takes the place of one of the same number. -/
def addRow? (t : Table) (values : List (String × Cell)) : Option Table := do
  let number ← t.newNumber? values
  return { t with
    rows := t.rows.insert ⟨number, t.columns.map (newCell number values)⟩
    greatest := max t.greatest number }

end Table

/-- Are the names of columns different, even if case does not count? -/
def distinctNames : List Column → Bool
  | [] => true
  | c :: cs => cs.all (fun d ↦ !Text.sameIgnoringCase c.name d.name) && distinctNames cs

/-- The table of a name. -/
def findTable? (tables : List Table) (name : String) : Option Table :=
  tables.find? fun t ↦ Text.sameIgnoringCase t.name name

/-- Puts a table in the place of the one of its name. -/
def putTable (t : Table) : List Table → List Table
  | [] => []
  | s :: ss => if Text.sameIgnoringCase s.name t.name then t :: ss else s :: putTable t ss

/-- The value that an operand stands for; a number that nothing is passed under stands for null. -/
def Operand.cell (passed : List Cell) : Operand → Cell
  | null => .null
  | parameter n => if n = 0 then .null else (passed[n - 1]?).getD .null

/-- Runs a command on tables, with the values that are passed by number. -/
def runCommand (passed : List Cell) (tables : List Table) : Command → Option (List Table)
  | .createTable name columns =>
    match findTable? tables name with
    | some _ => some tables
    | none =>
      if distinctNames columns && columns.length ≤ Table.maxColumns then
        some (tables ++ [⟨name, columns, ∅, 0⟩])
      else none
  | .insertRow name columns values =>
    match findTable? tables name with
    | none => none
    | some t =>
      if columns.all t.accepts && columns.length == values.length then
        (t.addRow? (columns.zip (values.map (Operand.cell passed)))).map (putTable · tables)
      else none

end RecordGateway.Database

namespace RecordGateway

/-! ## The storage over a database

Statements are read and run one by one, until the database is closed. -/

/-- A database that is open or closed. -/
structure Database where
  closed : Bool
  /-- Can anything be written to it? -/
  writable : Bool
  tables : List Database.Table
  deriving DecidableEq

namespace Database

/-- An open database without tables. -/
def fresh (writable : Bool) : Database := ⟨false, writable, []⟩

/-- Runs the text of a statement with the values that are passed by number. -/
def run (sql : String) (passed : List Cell) (d : Database) :
    Except BackendError Unit × Database :=
  if d.closed then (.error (.storage "the database is closed"), d)
  else if !d.writable then (.error (.storage "the database is read-only"), d)
  else
    match (Command.read? sql).bind (runCommand passed d.tables) with
    | none => (.error (.storage "the statement failed"), d)
    | some tables => (.ok (), { d with tables })

/-- Runs a statement with named values. -/
def runNamed (s : NamedStatement) (d : Database) : Except BackendError Unit × Database :=
  match s.rebind .sqlite with
  | .error e => (.error (.sql e), d)
  | .ok n => d.run n.sql (n.values.map Cell.ofValue)

/-- A database as a storage. -/
def storage : Storage Database where
  dialect := .sqlite
  execute sql d := d.run sql []
  executeNamed s d := d.runNamed s
  close d := { d with closed := true }

/-- The table of a name, as long as the database is open. -/
def table? (d : Database) (name : String) : Option Table :=
  if d.closed then none else findTable? d.tables name

end Database

end RecordGateway
