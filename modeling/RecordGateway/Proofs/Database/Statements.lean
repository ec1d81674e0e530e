import RecordGateway.Proofs.Database.Tables

/-!
# What statements do to a database

The statement that makes the table of a record leaves a table of that name alone, and otherwise
makes one with the two generated columns and those of the fields that are not null.  The statement
that puts a record into its table adds one row, which is given the value of each field under the
name of the field; it fails if there is no such table, if some field has no column there, if more
values would have to be passed than can be, or if the row can be given no number.  The fields may be
listed in any order.
-/

namespace RecordGateway.Record

open Database

variable {r : Record} {cs : List String}

/-- What a row is given for a field. -/
def cell (r : Record) (c : String) : Cell := .ofValue ((r.get? c).getD .null)

/-- What a row is given, by the names of the fields as they are listed. -/
def cells (r : Record) (cs : List String) : List (String × Cell) := cs.map fun c ↦ (c, r.cell c)

/-- A table with a row for a record whose fields are listed in some order, if there can be one. -/
def putInto? (r : Record) (cs : List String) (t : Table) : Option Table :=
  if cs.all t.accepts && cs.countP r.isPassed ≤ Command.maxParameters then t.addRow? (r.cells cs)
  else none

/-- The columns of a table that is made for a record.  A field named `constraint` is read as a
constraint that says nothing, if no other field is declared behind it. -/
def columnsMade (r : Record) : List Column :=
  [⟨"rowid", "INTEGER", .rowid⟩, ⟨"created", "DATETIME", .now⟩]
    ++ (r.declaredFields.filter fun f ↦ !Text.sameIgnoringCase f.1 "constraint").map
      Column.ofField

/-- The table that is made for a record. -/
def tableMade (r : Record) : Table := ⟨r.table, r.columnsMade, ∅, 0⟩

/-- A row for a record leaves the name and the columns of a table as they are. -/
theorem of_putInto? {t t' : Table} (h : r.putInto? cs t = some t') :
    t'.name = t.name ∧ t'.columns = t.columns := by
  rw [putInto?] at h
  split at h
  · exact Table.of_addRow? h
  · cases h

/-! ## Reading the statements of a record -/

/-- What stands for the value of a field is read back as null, or as the parameter of its number if
there can be so many. -/
theorem readOperand?_operand {c : String} {k : Nat} (hk : r.isPassed c = true → 0 < k) :
    Command.readOperand? (r.operand .sqlite c k).toList
      = if r.isPassed c then if k ≤ Command.maxParameters then some (.parameter k) else none
        else some .null := by
  rw [operand]
  cases hpassed : r.isPassed c with
  | false => exact Command.readOperand?_null
  | true => exact Command.readOperand?_placeholder (hk hpassed)

/-- The values of a statement are read back as what stands for the values of the fields: the
values passed for columns in front of these stand before theirs. -/
theorem mapM_readOperand? (hcs : r.Lists cs) (before : List Cell)
    (hfew : before.length + cs.countP r.isPassed ≤ Command.maxParameters) :
    ∃ vs, ((r.operands .sqlite before.length cs).map String.toList).mapM Command.readOperand?
        = some vs ∧
      vs.map (Operand.cell (before ++ (r.passedValues cs).map Cell.ofValue))
        = cs.map r.cell := by
  induction cs generalizing before with
  | nil => exact ⟨[], rfl, rfl⟩
  | cons c cs ih =>
    obtain ⟨-, v, hv⟩ := hcs c (.head _)
    have hcs' : r.Lists cs := fun e he ↦ hcs e (.tail _ he)
    have hcell : r.cell c = .ofValue v := by rw [cell, hv, Option.getD_some]
    have hpassed : r.isPassed c = (v != .null) := by simp [isPassed, hv, bne]
    rw [countP_cons_eq_add] at hfew
    rw [operands_cons]
    by_cases hn : v = .null
    · subst hn
      have hcount : [c].countP r.isPassed = 0 := by simp [hpassed]
      obtain ⟨vs, hread, hcells⟩ := ih hcs' before (by omega)
      have hvalues : r.passedValues (c :: cs) = r.passedValues cs := by
        simp [passedValues, hpassed]
      have hnull : Command.readOperand? (r.operand .sqlite c before.length).toList
          = some .null := by
        rw [readOperand?_operand (by simp [hpassed]), hpassed]
        rfl
      refine ⟨.null :: vs, ?_, ?_⟩
      · rw [hcount, Nat.add_zero, List.map_cons, List.mapM_cons, hnull, hread]
        rfl
      · rw [hvalues, List.map_cons, hcells, List.map_cons, hcell]
        rfl
    · have hcount : [c].countP r.isPassed = 1 := by simp [hpassed, hn]
      obtain ⟨vs, hread, hcells⟩ := ih hcs' (before ++ [.ofValue v])
        (by rw [List.length_append, List.length_singleton]; omega)
      have hvalues : r.passedValues (c :: cs) = v :: r.passedValues cs := by
        simp [passedValues, hpassed, hn, hv]
      have hmark : Command.readOperand? (r.operand .sqlite c (before.length + 1)).toList
          = some (.parameter (before.length + 1)) := by
        rw [readOperand?_operand fun _ ↦ Nat.succ_pos _, hpassed, bne_iff_ne.2 hn, if_pos rfl,
          if_pos (by omega)]
      rw [List.length_append, List.length_singleton] at hread
      rw [List.append_assoc, List.singleton_append] at hcells
      refine ⟨.parameter (before.length + 1) :: vs, ?_, ?_⟩
      · rw [hcount, List.map_cons, List.mapM_cons, hmark, hread]
        rfl
      · rw [hvalues, List.map_cons, List.map_cons, hcells, List.map_cons, hcell]
        simp [Operand.cell]

/-- The values are not read back if there are more than can be passed. -/
theorem mapM_readOperand?_eq_none {k : Nat} (hk : k ≤ Command.maxParameters)
    (hmany : Command.maxParameters < k + cs.countP r.isPassed) :
    ((r.operands .sqlite k cs).map String.toList).mapM Command.readOperand? = none := by
  induction cs generalizing k with
  | nil => exact absurd hmany (Nat.not_lt.2 hk)
  | cons c cs ih =>
    rw [countP_cons_eq_add, ← Nat.add_assoc] at hmany
    rw [operands_cons, List.map_cons, List.mapM_cons]
    by_cases hlast : k + [c].countP r.isPassed ≤ Command.maxParameters
    · rw [ih hlast hmany]
      cases Command.readOperand? _ <;> rfl
    · -- this is the first mark whose number is too great
      have hpassed : r.isPassed c = true := by
        by_contra h
        simp [h] at hlast
        omega
      have hmark : Command.readOperand?
          (r.operand .sqlite c (k + [c].countP r.isPassed)).toList = none := by
        rw [readOperand?_operand fun _ ↦ by omega, hpassed, if_pos rfl, if_neg hlast]
      rw [hmark]
      rfl

theorem isItem_operands (k : Nat) (cs : List String) :
    ∀ v ∈ r.operands .sqlite k cs, Command.IsItem v.toList := by
  induction cs generalizing k with
  | nil => exact fun _ hv ↦ by cases hv
  | cons c cs ih =>
    intro v hv
    rw [operands_cons] at hv
    rcases List.mem_cons.1 hv with rfl | hv
    · rw [operand]
      split
      · exact Command.isItem_placeholder _
      · exact ⟨by decide, by decide⟩
    · exact ih _ v hv

/-- What is read from the statement that puts a record into its table, its columns and its values
being read apart. -/
theorem read?_insert (hvalid : r.isValid = true) (hne : r.isEmpty = false)
    (hcs : cs.Perm r.columns) :
    Command.read? (listingText r.table cs (r.operands .sqlite 0 cs))
      = if cs.any fun c ↦ isReserved c.toList then none
        else (((r.operands .sqlite 0 cs).map String.toList).mapM Command.readOperand?).map
          (.insertRow r.table cs ·) := by
  have htable := Identifier.not_mem_of_isValid (isValid_iff.1 hvalid).1
    (by decide : '"'.isAlphanum = false)
  have hnames : ∀ c ∈ cs, Identifier.isValid c = true := fun c hc ↦
    isValid_of_mem_columns hvalid (hcs.mem_iff.1 hc)
  have hcolumns : cs ≠ [] := by
    rintro rfl
    rw [isEmpty_iff.2 hcs.symm.eq_nil] at hne
    cases hne
  have hoperands : r.operands .sqlite 0 cs ≠ [] := by
    simpa [operands, ← List.length_eq_zero_iff] using hcolumns
  have hitems : ∀ c ∈ cs, Command.IsItem c.toList := fun c hc ↦
    Command.isItem_of_isAlphanum fun _ ↦ Identifier.isAlphanum_of_mem (hnames c hc)
  rw [Command.read?_listingText htable hcolumns hoperands hitems (isItem_operands 0 _),
    Command.mapM_readName? hnames]
  split <;> rfl

/-! ## Reading the declarations of a record -/

theorem areFields_declaredFields (hvalid : r.isValid = true) :
    Command.AreFields r.declaredFields := by
  intro f hf
  obtain ⟨v, hv, -⟩ := mem_declaredFields_iff.1 hf
  exact ⟨((isValid_iff.1 hvalid).2 _ v hv).1, kind_of_mem_declaredFields hvalid hf⟩

theorem isValid_of_mem_generatedColumns :
    ∀ c ∈ generatedColumns, Identifier.isValid c.1 = true := by
  decide

theorem isItem_typeText (k : Kind) : Command.IsItem (Dialect.sqlite.typeText k).toList := by
  cases k <;> exact ⟨by decide, by decide⟩

theorem isItem_declarations (hvalid : r.isValid = true) :
    ∀ s ∈ r.tableColumns.map (declaration .sqlite), Command.IsItem s.toList := by
  intro s hs
  obtain ⟨c, hc, rfl⟩ := List.mem_map.1 hs
  have hname : Identifier.isValid c.1 = true := by
    rw [tableColumns_eq, List.mem_append] at hc
    rcases hc with hc | hc
    · exact isValid_of_mem_generatedColumns c hc
    · exact (areFields_declaredFields hvalid c hc).1
  obtain ⟨hcomma, hbracket⟩ :=
    Command.isItem_of_isAlphanum fun _ ↦ Identifier.isAlphanum_of_mem hname
  obtain ⟨hcomma', hbracket'⟩ := isItem_typeText c.2
  rw [toList_declaration]
  exact ⟨by simp [hcomma, hcomma'], by simp [hbracket, hbracket']⟩

/-- The generated columns are read back in front of the columns of the fields. -/
theorem readColumns?_declarations (r : Record) :
    Command.readColumns? ((r.tableColumns.map (declaration .sqlite)).map String.toList)
      = (Command.readColumns?
          (r.declaredFields.map fun f ↦ (declaration .sqlite f).toList)).map fun columns ↦
            [⟨"rowid", "INTEGER", .rowid⟩, ⟨"created", "DATETIME", .now⟩] ++ columns := by
  have hrowid : Command.readColumn? (declaration .sqlite ("rowid", .primaryKey)).toList
      = some ⟨"rowid", "INTEGER", .rowid⟩ := by decide
  have hcreated : Command.readColumn? (declaration .sqlite ("created", .timestamp)).toList
      = some ⟨"created", "DATETIME", .now⟩ := by decide
  rw [tableColumns_eq, generatedColumns]
  simp only [List.cons_append, List.nil_append, List.map_cons, List.map_map,
    Command.readColumns?_of_some hrowid, Command.readColumns?_of_some hcreated, Option.map_map]
  rfl

theorem read?_create {sql : String} (h : r.createIn .sqlite = .ok sql) :
    Command.read? sql
      = (Command.readColumns? (r.declaredFields.map fun f ↦ (declaration .sqlite f).toList)).map
          fun columns ↦ .createTable r.table
            ([⟨"rowid", "INTEGER", .rowid⟩, ⟨"created", "DATETIME", .now⟩] ++ columns) := by
  obtain ⟨hvalid, -, rfl⟩ := createIn_eq_ok_iff.1 h
  have htable := Identifier.not_mem_of_isValid (isValid_iff.1 hvalid).1
    (by decide : '"'.isAlphanum = false)
  rw [Command.read?_createText htable (by simp [tableColumns_eq, generatedColumns])
    (isItem_declarations hvalid), readColumns?_declarations]
  cases Command.readColumns? (r.declaredFields.map fun f ↦ (declaration .sqlite f).toList) <;> rfl

/-- The command that is read from the statement that makes the table of a record, if one is. -/
theorem eq_of_read?_create {sql : String} (h : r.createIn .sqlite = .ok sql) {c : Command}
    (hread : Command.read? sql = some c) : c = .createTable r.table r.columnsMade := by
  rw [read?_create h, Option.map_eq_some_iff] at hread
  obtain ⟨columns, hcolumns, rfl⟩ := hread
  have hvalid := (createIn_eq_ok_iff.1 h).1
  rw [Command.readColumns?_fields (areFields_declaredFields hvalid) hcolumns]
  rfl

/-- A command is read if no field that has a column is named by a reserved word. -/
theorem read?_create_of_free {sql : String} (h : r.createIn .sqlite = .ok sql)
    (hfree : ∀ f ∈ r.declaredFields, isReserved f.1.toList = false) :
    Command.read? sql = some (.createTable r.table r.columnsMade) := by
  have hvalid := (createIn_eq_ok_iff.1 h).1
  have hread := Command.readColumns?_fields_of_free (areFields_declaredFields hvalid) hfree
  have hsome : Command.read? sql
      = some (.createTable r.table
          ([⟨"rowid", "INTEGER", .rowid⟩, ⟨"created", "DATETIME", .now⟩]
            ++ r.declaredFields.map Column.ofField)) := by
    rw [read?_create h, hread]
    rfl
  rw [hsome, eq_of_read?_create h hsome]

end RecordGateway.Record

namespace RecordGateway.Database

open Record

variable {r : Record} {cs : List String} {d d' : Database}

/-- What the command comes to that is read from the statement that puts a record into its table. -/
theorem bind_read?_insert {tables : List Table} (hnames : WellNamed tables)
    (hvalid : r.isValid = true) (hne : r.isEmpty = false) (hcs : cs.Perm r.columns) :
    (Command.read? (listingText r.table cs (r.operands .sqlite 0 cs))).bind
        (runCommand ((r.passedValues cs).map Cell.ofValue) tables)
      = ((findTable? tables r.table).bind (r.putInto? cs)).map (putTable · tables) := by
  rw [read?_insert hvalid hne hcs]
  cases hreserved : cs.any fun c ↦ isReserved c.toList with
  | true =>
    rw [if_pos rfl, Option.bind_none]
    cases ht : findTable? tables r.table with
    | none => rfl
    | some t =>
      obtain ⟨c, hc, hword⟩ := List.any_eq_true.1 hreserved
      have haccepts := Table.accepts_of_isReserved (hnames t (mem_of_findTable? ht)) hword
      have hall : cs.all t.accepts = false := by
        rw [List.all_eq_false]
        exact ⟨c, hc, by simp [haccepts]⟩
      simp [putInto?, hall]
  | false =>
    rw [if_neg (by decide)]
    by_cases hfew : cs.countP r.isPassed ≤ Command.maxParameters
    · obtain ⟨vs, hread, hcells⟩ :=
        mapM_readOperand? (lists_of_perm hvalid hcs) [] (by simpa using hfew)
      have hlength : cs.length = vs.length := by simpa using congrArg List.length hcells.symm
      have hzip : cs.zip (vs.map (Operand.cell ((r.passedValues cs).map Cell.ofValue)))
          = r.cells cs := by
        rw [List.nil_append] at hcells
        rw [hcells, cells, ← List.zip_map', List.map_id']
      rw [List.length_nil] at hread
      rw [hread, Option.map_some, Option.bind_some, runCommand]
      cases findTable? tables r.table with
      | none => rfl
      | some t =>
        simp only [hlength, beq_self_eq_true, Bool.and_true, hzip, Option.bind_some, putInto?,
          hfew, decide_true]
        cases cs.all t.accepts <;> rfl
    · rw [mapM_readOperand?_eq_none (Nat.zero_le _) (by omega), Option.map_none, Option.bind_none]
      cases findTable? tables r.table <;> simp [putInto?, hfew]

/-- Putting a record into its table adds the row of the record, if there can be one, and changes
nothing else. -/
theorem runNamed_insert (hopen : d.closed = false) (hwritable : d.writable = true)
    (hnames : WellNamed d.tables) (hcs : cs.Perm r.columns) {s : NamedStatement}
    (h : r.insertListing cs = .ok s) :
    d.runNamed s
      = match (findTable? d.tables r.table).bind (r.putInto? cs) with
        | none => (.error (.storage "the statement failed"), d)
        | some t => (.ok (), { d with tables := putTable t d.tables }) := by
  obtain ⟨hvalid, hne, -, rfl⟩ := insertListing_eq_ok_iff.1 h
  rw [runNamed, rebind_insertText (isValid_iff.1 hvalid).1 (lists_of_perm hvalid hcs)]
  simp only [run, hopen, hwritable, bind_read?_insert hnames hvalid hne hcs, Bool.not_true,
    Bool.false_eq_true, if_false]
  cases (findTable? d.tables r.table).bind (r.putInto? cs) <;> rfl

/-- What is there once the statement that makes the table of a record has been run: the table of
that name that was there before, or the one that was made, which has not too many columns. -/
theorem of_run_create {sql : String} (h : r.createIn .sqlite = .ok sql)
    (hrun : d.run sql [] = (.ok (), d')) :
    d.closed = false ∧ d.writable = true ∧
      ((∃ t, findTable? d.tables r.table = some t) ∧ d' = d ∨
        findTable? d.tables r.table = none ∧ r.columnsMade.length ≤ Table.maxColumns ∧
          d' = { d with tables := d.tables ++ [r.tableMade] }) := by
  obtain ⟨hopen, hwritable, c, tables, hread, hcommand, rfl⟩ := run_eq_ok_iff.1 hrun
  refine ⟨hopen, hwritable, ?_⟩
  rw [eq_of_read?_create h hread, runCommand] at hcommand
  cases ht : findTable? d.tables r.table with
  | some t =>
    rw [ht] at hcommand
    cases hcommand
    exact .inl ⟨⟨t, rfl⟩, rfl⟩
  | none =>
    rw [ht] at hcommand
    simp only at hcommand
    split at hcommand
    next hmade =>
      cases hcommand
      rw [Bool.and_eq_true, decide_eq_true_eq] at hmade
      exact .inr ⟨rfl, hmade.2, rfl⟩
    next => cases hcommand

/-- A table can be made for every record that has no names that SQLite refuses. -/
theorem run_create_of_free {sql : String} (h : r.createIn .sqlite = .ok sql)
    (hfree : ∀ f ∈ r.declaredFields, isReserved f.1.toList = false)
    (hdistinct : distinctNames r.columnsMade = true)
    (hfew : r.columnsMade.length ≤ Table.maxColumns) (hopen : d.closed = false)
    (hwritable : d.writable = true) (hnew : findTable? d.tables r.table = none) :
    d.run sql [] = (.ok (), { d with tables := d.tables ++ [r.tableMade] }) := by
  refine run_eq_ok_iff.2 ⟨hopen, hwritable, _, _, read?_create_of_free h hfree, ?_, rfl⟩
  rw [runCommand, hnew]
  simp [hdistinct, hfew, tableMade]

theorem findTable?_append {tables : List Table} {t : Table}
    (h : findTable? tables t.name = none) : findTable? (tables ++ [t]) t.name = some t := by
  rw [findTable?] at h ⊢
  rw [List.find?_append, h]
  simp

/-! ## Statements that fail -/

theorem run_of_error {sql : String} {passed : List Cell} {e : BackendError}
    (h : (d.run sql passed).1 = .error e) : (d.run sql passed).2 = d := by
  rw [run] at h ⊢
  split at h
  next hclosed => rw [if_pos hclosed]
  next hclosed =>
    rw [if_neg hclosed]
    split at h
    next hreadOnly => rw [if_pos hreadOnly]
    next hreadOnly =>
      rw [if_neg hreadOnly]
      split at h
      next => rfl
      next => cases h

/-- A statement that fails leaves the database as it was. -/
theorem runNamed_of_error {s : NamedStatement} {e : BackendError}
    (h : (d.runNamed s).1 = .error e) : (d.runNamed s).2 = d := by
  rw [runNamed] at h ⊢
  split at h
  next => rfl
  next => exact run_of_error h

theorem of_runNamed {s : NamedStatement} (h : (d.runNamed s).1 = .ok ()) :
    d.closed = false ∧ d.writable = true := by
  rw [runNamed] at h
  split at h
  next => cases h
  next n _ =>
    obtain ⟨hopen, hwritable, -⟩ := run_eq_ok_iff.1 (Prod.ext h (Eq.refl (d.run _ _).2))
    exact ⟨hopen, hwritable⟩

/-! ## The numbers of rows -/

/-- The numbers of rows stand in a column named `rowid`, if in any. -/
def Table.NumbersByRowid (t : Table) : Prop :=
  ∀ c ∈ t.columns, c.filling = .rowid → c.name = "rowid"

theorem Table.numbersByRowid_of_columns {t : Table} {made : Record}
    (h : t.columns = made.columnsMade) : t.NumbersByRowid := by
  intro c hc hfilling
  rw [h] at hc
  rcases List.mem_append.1 hc with hc | hc
  · simp only [List.mem_cons, List.not_mem_nil, or_false] at hc
    rcases hc with rfl | rfl
    · rfl
    · cases hfilling
  · obtain ⟨f, -, rfl⟩ := List.mem_map.1 hc
    cases hfilling

variable {t : Table} {c : Column} {f : String}

/-- A field that has a column does not give the number of a row. -/
theorem Table.NumbersByRowid.namesNumber_eq_false (ht : t.NumbersByRowid)
    (hgen : Record.isGenerated f = false) (h : t.find? f = some c) : t.namesNumber f = false := by
  have hsame := List.find?_some h
  rw [namesNumber, h, beq_eq_false_iff_ne]
  intro hfilling
  rw [ht c (List.mem_of_find?_eq_some h) hfilling] at hsame
  rw [Record.isGenerated, List.any_eq_false] at hgen
  exact hgen _ (.head _) hsame

theorem toLower_ne_underscore {c : Char} (h : c.isAlpha = true) : c.toLower ≠ '_' := by
  by_cases hupper : c.val ≥ 'A'.val ∧ c.val ≤ 'Z'.val
  · intro heq
    unfold Char.toLower at heq
    rw [dif_pos hupper] at heq
    have hval : (c.val + 32).toNat = 95 := congrArg (fun d : Char ↦ d.val.toNat) heq
    have hlow : 65 ≤ c.val.toNat := hupper.1
    have hhigh : c.val.toNat ≤ 90 := hupper.2
    have hadded : (32 : UInt32).toNat = 32 := rfl
    rw [UInt32.toNat_add] at hval
    omega
  · unfold Char.toLower
    rw [dif_neg hupper]
    rintro rfl
    cases h

/-- The only field that can give the number of a row is one named `oid`, in a table that has no
column of that name. -/
theorem exists_find?_of_accepts (hvalid : Identifier.isValid f = true)
    (hgen : Record.isGenerated f = false) (haccepts : t.accepts f = true)
    (hoid : Text.sameIgnoringCase "oid" f = true → (t.find? f).isSome = true) :
    ∃ c, t.find? f = some c := by
  cases h : t.find? f with
  | some c => exact ⟨c, rfl⟩
  | none =>
    simp only [Table.accepts, Table.namesNumber, h, Option.isSome_none, Bool.false_or,
      Table.numberNames, List.any_cons, List.any_nil, Bool.or_false, Bool.or_eq_true] at haccepts
    rcases haccepts with hrowid | hsame | hline
    · rw [Record.isGenerated, List.any_eq_false] at hgen
      exact absurd hrowid (hgen _ (.head _))
    · rw [h] at hoid
      cases hoid hsame
    · obtain ⟨d, ds, hd, halpha⟩ := Identifier.exists_cons_of_isValid hvalid
      rw [Text.sameIgnoringCase_iff, Text.folded, Text.folded, hd, List.map_cons] at hline
      exact absurd (List.cons.inj hline).1.symm (toLower_ne_underscore halpha)

/-- A row of which no field gives the number gets the next one. -/
theorem newNumber?_cells (h : ∀ f ∈ cs, t.namesNumber f = false) :
    t.newNumber? (r.cells cs) = t.nextNumber? := by
  have hnone : ((r.cells cs).filter fun v ↦ t.namesNumber v.1) = [] := by
    rw [List.filter_eq_nil_iff]
    intro v hv
    obtain ⟨f, hf, rfl⟩ := List.mem_map.1 hv
    exact Bool.eq_false_iff.1 (h f hf)
  rw [Table.newNumber?, hnone]
  rfl

theorem isSome_putInto?_iff :
    (r.putInto? cs t).isSome = true ↔
      (∀ c ∈ cs, t.accepts c = true) ∧ cs.countP r.isPassed ≤ Command.maxParameters ∧
        (t.newNumber? (r.cells cs)).isSome = true := by
  rw [Record.putInto?, ← List.all_eq_true]
  cases cs.all t.accepts with
  | false => simp
  | true =>
    by_cases hfew : cs.countP r.isPassed ≤ Command.maxParameters
    · cases h : t.newNumber? (r.cells cs) <;> simp [Table.addRow?, h, hfew]
    · simp [hfew]

/-- Whatever the order in which its fields are listed, there can be a row for a record if all of
them have columns, their values can be passed, and there is a next number. -/
theorem isSome_putInto?_of_perm (ht : t.NumbersByRowid) (hvalid : r.isValid = true)
    (hgen : ∀ f ∈ r.columns, Record.isGenerated f = false)
    (hoid : ∀ f ∈ r.columns, Text.sameIgnoringCase "oid" f = false) (hcs : cs.Perm r.columns) :
    (r.putInto? cs t).isSome = true ↔
      (∀ f ∈ r.columns, ∃ c, t.find? f = some c) ∧
        r.columns.countP r.isPassed ≤ Command.maxParameters ∧ t.nextNumber?.isSome = true := by
  rw [isSome_putInto?_iff, hcs.countP_eq]
  have haccepts : (∀ f ∈ cs, t.accepts f = true) ↔ ∀ f ∈ r.columns, ∃ c, t.find? f = some c := by
    constructor
    · intro h f hf
      refine exists_find?_of_accepts (isValid_of_mem_columns hvalid hf) (hgen f hf)
        (h f (hcs.mem_iff.2 hf)) fun hsame ↦ ?_
      rw [hoid f hf] at hsame
      cases hsame
    · intro h f hf
      obtain ⟨c, hc⟩ := h f (hcs.mem_iff.1 hf)
      rw [Table.accepts, hc]
      rfl
  rw [haccepts]
  refine and_congr_right fun hcolumns ↦ and_congr_right fun _ ↦ ?_
  rw [newNumber?_cells]
  intro f hf
  obtain ⟨c, hc⟩ := hcolumns f (hcs.mem_iff.1 hf)
  exact ht.namesNumber_eq_false (hgen f (hcs.mem_iff.1 hf)) hc

/-! ## Tables that were made for a record -/

/-- A field that is not null has a column in the table made for its record, unless it is taken for
a constraint. -/
theorem exists_find?_tableMade {c : String} {v : Value} (hv : r.get? c = some v)
    (hnull : v ≠ .null) (hword : Text.sameIgnoringCase c "constraint" = false) :
    ∃ column, r.tableMade.find? c = some column := by
  have hmem : Column.ofField (c, v.kind) ∈ r.columnsMade := by
    refine List.mem_append_right _ (List.mem_map_of_mem (List.mem_filter.2 ⟨?_, ?_⟩))
    · exact Record.mem_declaredFields_iff.2 ⟨v, hv, hnull, rfl⟩
    · rw [hword]
      rfl
  rw [← Option.isSome_iff_exists, Table.find?, List.find?_isSome]
  exact ⟨_, hmem, Text.sameIgnoringCase_self c⟩

/-- As many values are passed for a record as its table has columns for. -/
theorem countP_isPassed_columns (r : Record) :
    r.columns.countP r.isPassed = r.declaredFields.length := by
  rw [Record.columns, NameMap.keys, List.countP_map, declaredFields, List.length_map,
    ← List.countP_eq_length_filter]
  refine List.countP_congr fun f hf ↦ ?_
  have hget : r.get? f.1 = some f.2 := NameMap.get?_eq_some_iff.2 hf
  simp [isPassed, hget, Value.kind_eq_null_iff]

/-- The values of a record can be passed if its table was made, and each of its fields has a column
there. -/
theorem countP_isPassed_le (hfew : r.columnsMade.length ≤ Table.maxColumns)
    (hword : ∀ c ∈ r.columns, Text.sameIgnoringCase c "constraint" = false) :
    r.columns.countP r.isPassed ≤ Command.maxParameters := by
  have hall : (r.declaredFields.filter fun f ↦ !Text.sameIgnoringCase f.1 "constraint")
      = r.declaredFields := by
    rw [List.filter_eq_self]
    intro f hf
    obtain ⟨v, hv, -⟩ := Record.mem_declaredFields_iff.1 hf
    rw [hword f.1 (Record.mem_columns_iff.2 ⟨v, hv⟩)]
    rfl
  have hmost : Table.maxColumns ≤ Command.maxParameters := by decide
  rw [columnsMade, hall, List.length_append, List.length_map] at hfew
  rw [countP_isPassed_columns]
  omega

end RecordGateway.Database
