import RecordGateway.Proofs.Backend.Runs
import RecordGateway.Proofs.Database.Statements

/-!
# Storing what was registered

When a record has been registered, its table is there: the one that was there before, or else one
that was made for the record.  The record can be stored there exactly if every field of it has a
column in the table, its values can be passed, and there is a next number for the row; this does not
depend on the order in which its fields are listed.  A null field makes no column, so to register a
record that has one does not mean that it can be stored; nor does it if the table was first made for
other fields.
-/

namespace RecordGateway

namespace Database

theorem keeps_wellNamed : storage.Keeps fun d ↦ WellNamed d.tables where
  execute sql _ h := wellNamed_run h sql []
  executeNamed s _ h := wellNamed_runNamed h s
  close _ h := h

theorem keeps_tables_close (tables : List Table) (d : Database) (h : d.tables = tables) (n : Nat) :
    (Nat.repeat storage.close n d).tables = tables := by
  induction n with
  | zero => exact h
  | succ n ih => exact ih

/-- What a step of a backend can make of some tables. -/
inductive Alters (tables : List Table) : List Table → Prop
  | refl : Alters tables tables
  | table {r : Record} (hnew : findTable? tables r.table = none) :
      Alters tables (tables ++ [r.tableMade])
  | row {r : Record} {cs t t'} (ht : findTable? tables r.table = some t)
      (hput : r.putInto? cs t = some t') : Alters tables (putTable t' tables)

/-- Whatever is made of tables, the numbers of rows stand in columns named `rowid`. -/
theorem Alters.numbersByRowid {tables tables' : List Table} (h : Alters tables tables')
    (hold : ∀ t ∈ tables, t.NumbersByRowid) : ∀ t ∈ tables', t.NumbersByRowid := by
  intro t ht
  cases h with
  | refl => exact hold t ht
  | table =>
    rcases List.mem_append.1 ht with ht | ht
    · exact hold t ht
    · rw [List.mem_singleton.1 ht]
      exact Table.numbersByRowid_of_columns rfl
  | row hfind hput =>
    rcases mem_putTable ht with rfl | ht
    · intro c hc
      rw [(Record.of_putInto? hput).2] at hc
      exact hold _ (mem_of_findTable? hfind) c hc
    · exact hold t ht

end Database

namespace SqlBackend

open Database

/-- What a backend over a new database has come to keep. -/
def Reached (b : SqlBackend Database) : Prop :=
  ∃ writable steps, b = ((start (fresh writable)).run storage steps).2

variable {b b' : SqlBackend Database} {r : Record} {listing : r.fields.Listing} {e : BackendError}

/-! ## Steps -/

theorem eq_of_register_error (h : b.register storage r = (.error e, b')) : b' = b := by
  rw [register] at h
  split at h
  · exact (Prod.mk.inj h).2.symm
  split at h
  · exact (Prod.mk.inj h).2.symm
  next sql _ =>
    obtain ⟨herror, hb'⟩ := Prod.mk.inj h
    have hstate : (storage.execute sql b.state).2 = b.state := run_of_error herror
    rw [← hb', hstate]

theorem eq_of_store_error (h : b.store storage r listing = (.error e, b')) : b' = b := by
  rw [store] at h
  split at h
  · exact (Prod.mk.inj h).2.symm
  split at h
  · exact (Prod.mk.inj h).2.symm
  next s _ =>
    obtain ⟨herror, hb'⟩ := Prod.mk.inj h
    have hstate : (storage.executeNamed s b.state).2 = b.state := runNamed_of_error herror
    rw [← hb', hstate]

/-- What a call comes down to that stores a record. -/
theorem of_store (hnames : WellNamed b.state.tables)
    (hstore : b.store storage r listing = (.ok (), b')) :
    r.isValid = true ∧ (∀ f ∈ r.columns, Record.isGenerated f = false) ∧
      ∃ t t', findTable? b.state.tables r.table = some t ∧
        r.putInto? listing.names t = some t' ∧
        b'.state.tables = putTable t' b.state.tables := by
  rw [SqlBackend.store] at hstore
  split at hstore
  · cases hstore
  split at hstore
  · cases hstore
  next s hs =>
    obtain ⟨hvalid, -, hgen, -⟩ := Record.insertListing_eq_ok_iff.1 hs
    obtain ⟨hok, rfl⟩ := Prod.mk.inj hstore
    change (b.state.runNamed s).1 = .ok () at hok
    change _ ∧ _ ∧ ∃ t t', _ ∧ _ ∧ (b.state.runNamed s).2.tables = _
    obtain ⟨hopen, hwritable⟩ := of_runNamed hok
    rw [runNamed_insert hopen hwritable hnames listing.names_perm hs] at hok ⊢
    cases hput : (findTable? b.state.tables r.table).bind (r.putInto? listing.names) with
    | none =>
      rw [hput] at hok
      cases hok
    | some t' =>
      obtain ⟨t, ht, ht'⟩ := Option.bind_eq_some_iff.1 hput
      exact ⟨hvalid, hgen, t, t', ht, ht', rfl⟩

/-- A step makes a table, puts a row into one, or leaves the tables as they are. -/
theorem alters_step (hnames : WellNamed b.state.tables) (s : Step) :
    Alters b.state.tables (b.step storage s).2.state.tables := by
  cases s with
  | register r =>
    rw [step]
    cases hreg : b.register storage r with
    | mk answer b' =>
      cases answer with
      | error e =>
        rw [eq_of_register_error hreg]
        exact .refl
      | ok =>
        obtain ⟨-, -, sql, hsql, hrun⟩ := of_register hreg
        obtain ⟨-, -, ⟨-, h⟩ | ⟨hnew, -, h⟩⟩ := of_run_create hsql hrun
        · rw [h]
          exact .refl
        · rw [h]
          exact .table hnew
  | store r listing =>
    rw [step]
    cases hstore : b.store storage r listing with
    | mk answer b' =>
      cases answer with
      | error e =>
        rw [eq_of_store_error hstore]
        exact .refl
      | ok =>
        obtain ⟨-, -, t, t', ht, hput, h⟩ := of_store hnames hstore
        rw [h]
        exact .row ht hput
  | stop | raceStop =>
    have htables := keeps_tables_close b.state.tables b.state rfl
    exact (htables _).symm ▸ .refl

/-! ## Databases that can be reached -/

theorem Reached.tables (h : b.Reached) :
    WellNamed b.state.tables ∧ ∀ t ∈ b.state.tables, t.NumbersByRowid := by
  obtain ⟨writable, steps, rfl⟩ := h
  have hstep (b : SqlBackend Database) (s : Step)
      (h : WellNamed b.state.tables ∧ ∀ t ∈ b.state.tables, t.NumbersByRowid) :
      WellNamed (b.step storage s).2.state.tables
        ∧ ∀ t ∈ (b.step storage s).2.state.tables, t.NumbersByRowid :=
    ⟨keeps_step keeps_wellNamed h.1 s, (alters_step h.1 s).numbersByRowid h.2⟩
  refine of_run (P := fun d : Database ↦ WellNamed d.tables ∧ ∀ t ∈ d.tables, t.NumbersByRowid)
    hstep ⟨?_, ?_⟩ steps <;> exact fun t ht ↦ absurd ht List.not_mem_nil

theorem Reached.wellNamed (h : b.Reached) : WellNamed b.state.tables := h.tables.1

/-- The table of a record, behind a call that registered it. -/
theorem Reached.numbersByRowid (h : b.Reached) (r : Record) :
    ((findTable? b.state.tables r.table).getD r.tableMade).NumbersByRowid := by
  cases ht : findTable? b.state.tables r.table with
  | none => exact Table.numbersByRowid_of_columns rfl
  | some t => exact h.tables.2 t (mem_of_findTable? ht)

/-! ## Behind a call that registers -/

/-- Behind a call that registered a record, its table is there. -/
theorem findTable?_after_register (hreg : b.register storage r = (.ok (), b')) :
    findTable? b'.state.tables r.table
      = some ((findTable? b.state.tables r.table).getD r.tableMade) := by
  obtain ⟨-, -, sql, hsql, hrun⟩ := of_register hreg
  obtain ⟨-, -, ⟨⟨t, ht⟩, h⟩ | ⟨hnone, -, h⟩⟩ := of_run_create hsql hrun
  · rw [h, ht, Option.getD_some]
  · rw [h, hnone, Option.getD_none]
    exact findTable?_append (t := r.tableMade) hnone

/-- A record that was registered can be stored exactly if its table can have a row for it. -/
theorem store_iff_putInto? (hb : b.Reached) (hne : r.isEmpty = false)
    (hreg : b.register storage r = (.ok (), b')) (listing : r.fields.Listing) :
    (b'.store storage r listing).1 = .ok () ↔
      (r.putInto? listing.names
        ((findTable? b.state.tables r.table).getD r.tableMade)).isSome = true := by
  obtain ⟨-, hrunning, sql, hsql, hrun⟩ := of_register hreg
  obtain ⟨hopen, hwritable, hstate⟩ := of_run_create hsql hrun
  obtain ⟨hvalid, hgen, -⟩ := Record.createIn_eq_ok_iff.1 hsql
  have hinsert : r.insert listing = .ok ⟨Record.insertText r.table listing.names, r.fields⟩ :=
    Record.insertListing_eq_ok_iff.2 ⟨hvalid, hne, hgen, rfl⟩
  have hnames : WellNamed b'.state.tables := by
    have hkept := keeps_step keeps_wellNamed hb.wellNamed (.register r)
    rwa [step, hreg] at hkept
  have hopen' : b'.state.closed = false := by
    rcases hstate with ⟨-, h⟩ | ⟨-, -, h⟩ <;> rw [h] <;> exact hopen
  have hwritable' : b'.state.writable = true := by
    rcases hstate with ⟨-, h⟩ | ⟨-, -, h⟩ <;> rw [h] <;> exact hwritable
  have hrow := runNamed_insert hopen' hwritable' hnames listing.names_perm hinsert
  rw [findTable?_after_register hreg, Option.bind_some] at hrow
  rw [store_of_executeNamed hrunning hinsert]
  change (b'.state.runNamed _).1 = .ok () ↔ _
  rw [hrow]
  cases r.putInto? listing.names ((findTable? b.state.tables r.table).getD r.tableMade) <;> simp

/-- A record can be registered for the first time if none of its names is reserved or differs from
another in case only. -/
theorem register_of_free (hvalid : r.isValid = true)
    (hgen : ∀ c ∈ r.columns, Record.isGenerated c = false)
    (hfree : ∀ f ∈ r.declaredFields, isReserved f.1.toList = false)
    (hdistinct : distinctNames r.columnsMade = true)
    (hfew : r.columnsMade.length ≤ Table.maxColumns) (hrunning : b.stopped = false)
    (hopen : b.state.closed = false) (hwritable : b.state.writable = true)
    (hnew : findTable? b.state.tables r.table = none) :
    b.register storage r
      = (.ok (), { b with
          state := { b.state with tables := b.state.tables ++ [r.tableMade] } }) := by
  have hsql : r.createIn storage.dialect = .ok _ :=
    Record.createIn_eq_ok_iff.2 ⟨hvalid, hgen, rfl⟩
  have hrun := run_create_of_free hsql hfree hdistinct hfew hopen hwritable hnew
  rw [register_of_execute hrunning hsql]
  change ((b.state.run _ []).1, { b with state := (b.state.run _ []).2 }) = _
  rw [hrun]

/-- A record whose table was made for it can be stored there if no field is null and none is taken
for a constraint. -/
theorem columns_of_tableMade (hreg : b.register storage r = (.ok (), b'))
    (hnew : findTable? b.state.tables r.table = none)
    (hnull : ∀ c v, r.get? c = some v → v ≠ .null)
    (hword : ∀ c ∈ r.columns, Text.sameIgnoringCase c "constraint" = false) :
    (∀ c ∈ r.columns, ∃ column, r.tableMade.find? c = some column) ∧
      r.columns.countP r.isPassed ≤ Command.maxParameters := by
  constructor
  · intro c hc
    obtain ⟨v, hv⟩ := Record.mem_columns_iff.1 hc
    exact exists_find?_tableMade hv (hnull c v hv) (hword c hc)
  · obtain ⟨-, -, sql, hsql, hrun⟩ := of_register hreg
    obtain ⟨-, -, ⟨⟨t, ht⟩, -⟩ | ⟨-, hfew, -⟩⟩ := of_run_create hsql hrun
    · rw [hnew] at ht
      cases ht
    · exact countP_isPassed_le hfew hword

/-- **Storing what was registered.**  Behind a call that registered a record of which no field is
named `oid`, its table is there: the one that was there before, or else the one made for the record.
However its fields are listed, the record can be stored then exactly if every field of it has a
column there, its values can be passed, and there is a next number for its row.  If the table was
made for the record, it can be stored if no field is null and none is taken for a constraint. -/
theorem store_after_register {b b' : SqlBackend Database} {r : Record} (hb : b.Reached)
    (hne : r.isEmpty = false) (hoid : ∀ c ∈ r.columns, Text.sameIgnoringCase "oid" c = false)
    (hreg : b.register storage r = (.ok (), b')) :
    ∃ t, findTable? b'.state.tables r.table = some t ∧
      t = (findTable? b.state.tables r.table).getD r.tableMade ∧
      (∀ listing : r.fields.Listing, (b'.store storage r listing).1 = .ok () ↔
        (∀ c ∈ r.columns, ∃ column, t.find? c = some column) ∧
          r.columns.countP r.isPassed ≤ Command.maxParameters ∧ t.nextNumber?.isSome = true) ∧
      (findTable? b.state.tables r.table = none → (∀ c v, r.get? c = some v → v ≠ .null) →
        (∀ c ∈ r.columns, Text.sameIgnoringCase c "constraint" = false) →
        ∀ listing : r.fields.Listing, (b'.store storage r listing).1 = .ok ()) := by
  obtain ⟨-, -, sql, hsql, -⟩ := of_register hreg
  obtain ⟨hvalid, hgen, -⟩ := Record.createIn_eq_ok_iff.1 hsql
  have hstore (listing : r.fields.Listing) :=
    (store_iff_putInto? hb hne hreg listing).trans
      (isSome_putInto?_of_perm (hb.numbersByRowid r) hvalid hgen hoid listing.names_perm)
  refine ⟨_, findTable?_after_register hreg, rfl, hstore,
    fun hnew hnull hword listing ↦ (hstore listing).2 ?_⟩
  obtain ⟨hcolumns, hfew⟩ := columns_of_tableMade hreg hnew hnull hword
  rw [hnew, Option.getD_none]
  exact ⟨hcolumns, hfew, rfl⟩

theorem reached_start (writable : Bool) : (start (fresh writable)).Reached := ⟨writable, [], rfl⟩

/-- A record without null fields. -/
def plain : Record := ⟨"t", ⟨[("a", .int 1), ("b", .string "x")], by decide⟩⟩

/-- The fields of `plain`, listed from the last one to the first. -/
def plainReversed : plain.fields.Listing := ⟨[("b", .string "x"), ("a", .int 1)], .swap _ _ _⟩

/-- A record without null fields is stored behind the call that made its table. -/
theorem store_plain :
    (start (fresh true)).Reached ∧ plain.isEmpty = false ∧
      (∀ c ∈ plain.columns, Text.sameIgnoringCase "oid" c = false) ∧
      ∃ b', (start (fresh true)).register storage plain = (.ok (), b') ∧
        (b'.store storage plain plainReversed).1 = .ok () := by
  have hne : plain.isEmpty = false := by decide
  have hoid : ∀ c ∈ plain.columns, Text.sameIgnoringCase "oid" c = false := by decide
  have hreg := register_of_free (b := start (fresh true)) (r := plain) (by decide) (by decide)
    (by decide) (by decide) (by decide) rfl rfl rfl rfl
  obtain ⟨t, -, -, -, hstore⟩ := store_after_register (reached_start true) hne hoid hreg
  refine ⟨reached_start true, hne, hoid, _, hreg, hstore rfl ?_ (by decide) plainReversed⟩
  rintro c _ hv rfl
  have hmem := NameMap.get?_eq_some_iff.1 hv
  simp [plain] at hmem

/-- A record with a null field. -/
def withNull : Record := ⟨"t", ⟨[("a", .null), ("b", .int 1)], by decide⟩⟩

/-- A record with a null field can be registered in a new database, and still not be stored, however
its fields are listed. -/
theorem store_withNull_fails :
    (start (fresh true)).Reached ∧ withNull.isEmpty = false ∧
      ∃ b', (start (fresh true)).register storage withNull = (.ok (), b') ∧
        ∀ listing, (b'.store storage withNull listing).1 ≠ .ok () := by
  have hne : withNull.isEmpty = false := by decide
  have hreg := register_of_free (b := start (fresh true)) (r := withNull) (by decide) (by decide)
    (by decide) (by decide) (by decide) rfl rfl rfl rfl
  refine ⟨reached_start true, hne, _, hreg, fun listing ↦ ?_⟩
  rw [Ne, store_iff_putInto? (reached_start true) hne hreg, isSome_putInto?_iff]
  rintro ⟨haccepts, -⟩
  have hmissing : withNull.tableMade.accepts "a" = false := by decide
  have ha : "a" ∈ listing.names := listing.names_perm.mem_iff.2 (by decide)
  exact Bool.false_ne_true (hmissing.symm.trans (haccepts "a" ha))

end SqlBackend

end RecordGateway
