import Mathlib.Data.List.Induction
import RecordGateway.Backend.Basic
import RecordGateway.Proofs.Backend.Registering
import RecordGateway.Proofs.Database.Keeping

/-!
# What a backend keeps of its calls

Behind any calls that register and store records, the table of a name is the one that the first
record registered under this name asks for, and it has one row for each record stored under it
(`IsKept`).  Calls that fail leave everything as it was.  All this holds as long as no field gives
the number of a row, which it does if it is named `oid` and the table has no column of that name:
such a row takes the place of the one that had the number.
-/

namespace RecordGateway

open Database

/-- The step that does something with a record, whose fields are listed in some order if need be. -/
def Verb.step (verb : Verb) (r : Record)
    (listing : r.fields.Listing := .ascending r.fields) : SqlBackend.Step :=
  match verb with
  | register => .register r
  | store => .store r listing

/-- A call of a backend with a record. -/
structure RecordCall where
  verb : Verb
  record : Record
  listing : record.fields.Listing := .ascending record.fields

/-- The step that a call is. -/
def RecordCall.step (c : RecordCall) : SqlBackend.Step := c.verb.step c.record c.listing

/-- A call with what was answered. -/
structure Answered where
  verb : Verb
  record : Record
  answer : Except BackendError Unit

/-- Has a call done something under a name of tables? -/
def Answered.isDone (verb : Verb) (name : String) (a : Answered) : Bool :=
  a.verb == verb && a.answer.isOk && Text.sameIgnoringCase a.record.table name

/-- The records for which calls have done something under a name of tables. -/
def recordsDone (verb : Verb) (name : String) (as : List Answered) : List Record :=
  (as.filter (Answered.isDone verb name)).map Answered.record

section recordsDone

variable {verb : Verb} {name : String} {a : Answered} (as : List Answered)

theorem recordsDone_concat_of_pos (h : a.isDone verb name = true) :
    recordsDone verb name (as ++ [a]) = recordsDone verb name as ++ [a.record] := by
  rw [recordsDone, List.filter_append, List.map_append, List.filter_cons_of_pos h, List.filter_nil,
    List.map_singleton, recordsDone]

theorem recordsDone_concat_of_neg (h : a.isDone verb name = false) :
    recordsDone verb name (as ++ [a]) = recordsDone verb name as := by
  rw [recordsDone, List.filter_append, List.filter_cons_of_neg (by simp [h]), List.filter_nil,
    List.append_nil, recordsDone]

theorem recordsDone_self {r : Record} (h : Text.sameIgnoringCase r.table name = true) :
    recordsDone verb name (as ++ [⟨verb, r, .ok ()⟩]) = recordsDone verb name as ++ [r] :=
  recordsDone_concat_of_pos as (by simp [Answered.isDone, h, Except.isOk, Except.toBool])

/-- What is done under a name is nothing under another one. -/
theorem recordsDone_of_ne {verb' : Verb} {r : Record} {answer : Except BackendError Unit}
    (h : Text.sameIgnoringCase r.table name = false) :
    recordsDone verb name (as ++ [⟨verb', r, answer⟩]) = recordsDone verb name as :=
  recordsDone_concat_of_neg as (by simp [Answered.isDone, h])

theorem recordsDone_congr {name' : String} (h : Text.sameIgnoringCase name name' = true) :
    recordsDone verb name as = recordsDone verb name' as := by
  rw [recordsDone, recordsDone]
  congr 2
  funext a
  rw [Answered.isDone, Answered.isDone, sameIgnoringCase_congr_right h]

theorem recordsDone_of_verb_ne (h : a.verb ≠ verb) :
    recordsDone verb name (as ++ [a]) = recordsDone verb name as :=
  recordsDone_concat_of_neg as (by simp [Answered.isDone, h])

end recordsDone

namespace SqlBackend

/-- A call of a backend over a database that fails leaves it as it was. -/
theorem eq_of_step_error {b b' : SqlBackend Database} {verb : Verb} {r : Record}
    {listing : r.fields.Listing} {e : BackendError}
    (h : b.step storage (verb.step r listing) = (.error e, b')) : b' = b := by
  cases verb with
  | register => exact eq_of_register_error h
  | store => exact eq_of_store_error h

/-! ## Histories -/

variable (writable : Bool) (calls : List RecordCall)

/-- The backend over a new database, behind some calls. -/
def behind : SqlBackend Database :=
  ((start (fresh writable)).run storage (calls.map RecordCall.step)).2

/-- The calls with what they were answered. -/
def history : List Answered :=
  List.zipWith (fun c answer ↦ ⟨c.verb, c.record, answer⟩) calls
    ((start (fresh writable)).run storage (calls.map RecordCall.step)).1

variable {writable calls}

theorem behind_concat (call : RecordCall) :
    behind writable (calls ++ [call]) = ((behind writable calls).step storage call.step).2 := by
  rw [behind, List.map_append, List.map_singleton, run_concat, behind]

theorem history_concat (call : RecordCall) :
    history writable (calls ++ [call])
      = history writable calls
        ++ [⟨call.verb, call.record, ((behind writable calls).step storage call.step).1⟩] := by
  rw [history, List.map_append, List.map_singleton, run_concat, List.zipWith_append, history,
    behind]
  · rfl
  · rw [length_run, List.length_map]

theorem reached_behind : (behind writable calls).Reached := ⟨writable, _, rfl⟩

/-! ## What is kept -/

/-- What is kept under a name, by the records that were registered and those that were stored under
it. -/
inductive IsKept : List Record → List Record → Option Table → Prop
  | nothing : IsKept [] [] none
  | table {r rs stored t} (hname : t.name = r.table) (hcolumns : t.columns = r.columnsMade)
      (hrows : t.Keeps stored) : IsKept (r :: rs) stored (some t)

/-- What the tables tell of the calls that were answered. -/
structure Ledger (as : List Answered) (tables : List Table) : Prop where
  kept : ∀ name, IsKept (recordsDone .register name as) (recordsDone .store name as)
    (findTable? tables name)
  distinct : DistinctTables tables

theorem ledger_nil : Ledger [] [] where
  kept _ := .nothing
  distinct := .nil

theorem findTable?_congr {s t : String} (h : Text.sameIgnoringCase s t = true)
    (tables : List Table) : findTable? tables s = findTable? tables t := by
  rw [findTable?, findTable?]
  congr 1
  funext u
  exact sameIgnoringCase_congr_right h u.name

variable {as : List Answered} {b b' : SqlBackend Database} {r : Record}
  {listing : r.fields.Listing}

namespace IsKept

variable {rs stored : List Record} {t t' : Table}

theorem eq_nil (h : IsKept rs stored none) : rs = [] ∧ stored = [] := by
  cases h
  exact ⟨rfl, rfl⟩

theorem register (h : IsKept rs stored (some t)) (r : Record) :
    IsKept (rs ++ [r]) stored (some t) := by
  cases h with
  | table hname hcolumns hrows => exact .table hname hcolumns hrows

theorem store (h : IsKept rs stored (some t)) (hvalid : r.isValid = true)
    (hgen : ∀ f ∈ r.columns, Record.isGenerated f = false) (hdistinct : r.DistinctFields)
    (hoid : ∀ f ∈ r.columns, Text.sameIgnoringCase "oid" f = true → (t.find? f).isSome = true)
    (hput : r.putInto? listing.names t = some t') :
    t'.name = t.name ∧ IsKept rs (stored ++ [r]) (some t') := by
  cases h with
  | table hname hcolumns hrows =>
    obtain ⟨hname', hcolumns', hrows'⟩ :=
      hrows.putInto? hcolumns hvalid hgen hdistinct hoid listing.names_perm hput
    exact ⟨hname', .table (hname'.trans hname) (hcolumns'.trans hcolumns) hrows'⟩

end IsKept

theorem Ledger.error {tables : List Table} (h : Ledger as tables) (verb : Verb) (r : Record)
    (e : BackendError) : Ledger (as ++ [⟨verb, r, .error e⟩]) tables where
  kept name := by
    have hdone (verb' : Verb) : Answered.isDone verb' name ⟨verb, r, .error e⟩ = false := by
      simp [Answered.isDone, Except.isOk, Except.toBool]
    rw [recordsDone_concat_of_neg as (hdone _), recordsDone_concat_of_neg as (hdone _)]
    exact h.kept name
  distinct := h.distinct

/-- Under other names a call changes nothing of what is kept. -/
theorem Ledger.kept_of_ne {tables : List Table} (h : Ledger as tables) {verb : Verb}
    {answer : Except BackendError Unit} {name : String}
    (hne : Text.sameIgnoringCase r.table name = false) :
    IsKept (recordsDone .register name (as ++ [⟨verb, r, answer⟩]))
      (recordsDone .store name (as ++ [⟨verb, r, answer⟩])) (findTable? tables name) := by
  rw [recordsDone_of_ne as hne, recordsDone_of_ne as hne]
  exact h.kept name

/-- A call that registers a record makes its table, or leaves the one that is there. -/
theorem Ledger.register (h : Ledger as b.state.tables)
    (hreg : b.register storage r = (.ok (), b')) :
    Ledger (as ++ [⟨.register, r, .ok ()⟩]) b'.state.tables := by
  obtain ⟨-, -, sql, hsql, hrun⟩ := of_register hreg
  obtain ⟨-, -, ⟨⟨t, ht⟩, hstate⟩ | ⟨hnew, -, hstate⟩⟩ := of_run_create hsql hrun
  · rw [hstate]
    refine ⟨fun name ↦ ?_, h.distinct⟩
    cases hsame : Text.sameIgnoringCase r.table name with
    | false => exact h.kept_of_ne hsame
    | true =>
      have hkept := h.kept name
      rw [recordsDone_self as hsame, recordsDone_of_verb_ne as (by simp)]
      rw [← findTable?_congr hsame, ht] at hkept ⊢
      exact hkept.register r
  · rw [hstate]
    refine ⟨fun name ↦ ?_, h.distinct.concat hnew⟩
    have hname : r.tableMade.name = r.table := rfl
    rw [findTable?_concat, hname]
    cases hsame : Text.sameIgnoringCase r.table name with
    | false =>
      rw [if_neg (by decide), Option.or_none]
      exact h.kept_of_ne hsame
    | true =>
      have hkept := h.kept name
      rw [← findTable?_congr hsame, hnew] at hkept ⊢
      obtain ⟨hregistered, hstored⟩ := hkept.eq_nil
      rw [recordsDone_self as hsame, recordsDone_of_verb_ne as (by simp), hregistered, hstored,
        if_pos rfl]
      exact .table hname rfl (.empty _ _)

/-- A call that stores a record adds one row to its table. -/
theorem Ledger.store (h : Ledger as b.state.tables) (hb : b.Reached)
    (hdistinct : r.DistinctFields)
    (hoid : ∀ t, findTable? b.state.tables r.table = some t →
      ∀ f ∈ r.columns, Text.sameIgnoringCase "oid" f = true → (t.find? f).isSome = true)
    (hstore : b.store storage r listing = (.ok (), b')) :
    Ledger (as ++ [⟨.store, r, .ok ()⟩]) b'.state.tables := by
  obtain ⟨hvalid, hgen, t, t', ht, hput, htables⟩ := of_store hb.wellNamed hstore
  have hname := List.find?_some ht
  have htable := h.kept r.table
  rw [ht] at htable
  obtain ⟨hname', htable'⟩ := htable.store hvalid hgen hdistinct (hoid t ht) hput
  rw [htables]
  refine ⟨fun name ↦ ?_, h.distinct.putTable t'⟩
  rw [findTable?_putTable, hname', sameIgnoringCase_congr hname]
  cases hsame : Text.sameIgnoringCase r.table name with
  | false =>
    rw [if_neg (by decide)]
    exact h.kept_of_ne hsame
  | true =>
    rw [if_pos rfl, ← findTable?_congr hsame, ht, recordsDone_of_verb_ne as (by simp),
      recordsDone_self as hsame]
    rw [← recordsDone_congr as hsame, ← recordsDone_congr as hsame]
    exact htable'

/-- Wherever a record with a field `oid` is stored, the table has a column of that name. -/
def OidHasColumn (writable : Bool) (calls : List RecordCall) : Prop :=
  ∀ before call after t, calls = before ++ call :: after → call.verb = .store →
    findTable? (behind writable before).state.tables call.record.table = some t →
      ∀ f ∈ call.record.columns, Text.sameIgnoringCase "oid" f = true → (t.find? f).isSome = true

variable {writable : Bool} {calls : List RecordCall}

theorem OidHasColumn.of_append {rest : List RecordCall}
    (h : OidHasColumn writable (calls ++ rest)) : OidHasColumn writable calls := by
  rintro before call after t rfl
  exact h before call (after ++ rest) t (by simp)

/-- No field is named `oid` in the first place. -/
theorem oidHasColumn_of_free
    (h : ∀ call ∈ calls, ∀ f ∈ call.record.columns, Text.sameIgnoringCase "oid" f = false) :
    OidHasColumn writable calls := by
  rintro before call after t rfl - - f hf hoid
  rw [h call (by simp) f hf] at hoid
  cases hoid

/-- What the tables tell of one more call. -/
theorem Ledger.step (h : Ledger as b.state.tables) (hb : b.Reached) {verb : Verb}
    (hdistinct : r.DistinctFields)
    (hoid : verb = .store → ∀ t, findTable? b.state.tables r.table = some t →
      ∀ f ∈ r.columns, Text.sameIgnoringCase "oid" f = true → (t.find? f).isSome = true) :
    Ledger (as ++ [⟨verb, r, (b.step storage (verb.step r listing)).1⟩])
      (b.step storage (verb.step r listing)).2.state.tables := by
  cases hstep : b.step storage (verb.step r listing) with
  | mk answer b' =>
    cases answer with
    | error e =>
      rw [eq_of_step_error hstep]
      exact h.error verb r e
    | ok =>
      cases verb with
      | register => exact h.register hstep
      | store => exact h.store hb hdistinct (hoid rfl) hstep

theorem ledger_history (hdistinct : ∀ call ∈ calls, call.record.DistinctFields)
    (hoid : OidHasColumn writable calls) :
    Ledger (history writable calls) (behind writable calls).state.tables := by
  induction calls using List.reverseRecOn with
  | nil => exact ledger_nil
  | append_singleton calls call ih =>
    obtain ⟨verb, r, listing⟩ := call
    have hcalls := ih (fun call hcall ↦ hdistinct call (List.mem_append_left _ hcall))
      hoid.of_append
    rw [history_concat, behind_concat]
    refine hcalls.step reached_behind (hdistinct _ (List.mem_append_right _ (.head _))) ?_
    rintro rfl t ht
    exact hoid calls ⟨.store, r, listing⟩ [] t rfl rfl ht

/-- **What a backend keeps of its calls.**  Behind any calls the table of every name is the one
that the first record registered under it asks for, with one row for each record stored under it,
in the order of the calls, whatever the order in which the fields of each are listed.  No two tables
have one name, and a call that fails changes nothing. -/
theorem kept_behind_calls (hdistinct : ∀ call ∈ calls, call.record.DistinctFields)
    (hoid : OidHasColumn writable calls) :
    (∀ name, IsKept (recordsDone .register name (history writable calls))
        (recordsDone .store name (history writable calls))
        (findTable? (behind writable calls).state.tables name)) ∧
      DistinctTables (behind writable calls).state.tables ∧
      ∀ (call : RecordCall) e b', (behind writable calls).step storage call.step = (.error e, b') →
        b' = behind writable calls := by
  have h := ledger_history hdistinct hoid
  refine ⟨h.kept, h.distinct, ?_⟩
  intro call e b' hstep
  exact eq_of_step_error hstep

/-! ## A few calls -/

/-- A backend with some tables. -/
def withTables (tables : List Table) : SqlBackend Database := ⟨.fresh, ⟨false, true, tables⟩⟩

/-- What some calls have been answered, and which tables there are behind them. -/
structure Stands (calls : List RecordCall) (as : List Answered) (tables : List Table) : Prop where
  behind_eq : behind true calls = withTables tables
  history_eq : history true calls = as

namespace Stands

variable {tables : List Table}

theorem nil : Stands [] [] [] := ⟨rfl, rfl⟩

theorem concat (h : Stands calls as tables) (call : RecordCall)
    {answer : Except BackendError Unit} {tables' : List Table}
    (hstep : (withTables tables).step storage call.step = (answer, withTables tables')) :
    Stands (calls ++ [call]) (as ++ [⟨call.verb, call.record, answer⟩]) tables' where
  behind_eq := by rw [behind_concat, h.behind_eq, hstep]
  history_eq := by rw [history_concat, h.behind_eq, h.history_eq, hstep]

/-- A record is registered under a name for the first time. -/
theorem register (h : Stands calls as tables) (hvalid : r.isValid = true)
    (hgen : ∀ c ∈ r.columns, Record.isGenerated c = false)
    (hfree : ∀ f ∈ r.declaredFields, isReserved f.1.toList = false)
    (hdistinct : distinctNames r.columnsMade = true)
    (hfew : r.columnsMade.length ≤ Table.maxColumns) (hnew : findTable? tables r.table = none) :
    Stands (calls ++ [⟨.register, r, .ascending r.fields⟩]) (as ++ [⟨.register, r, .ok ()⟩])
      (tables ++ [r.tableMade]) :=
  h.concat ⟨.register, r, .ascending r.fields⟩
    (register_of_free hvalid hgen hfree hdistinct hfew rfl rfl rfl hnew)

theorem step_store (h : Stands calls as tables) {s : NamedStatement}
    (hs : r.insert listing = .ok s) :
    (withTables tables).step storage (.store r listing)
      = match (findTable? tables r.table).bind (r.putInto? listing.names) with
        | none => (.error (.storage "the statement failed"), withTables tables)
        | some t => (.ok (), withTables (putTable t tables)) := by
  have hreached : (behind true calls).Reached := reached_behind
  rw [h.behind_eq] at hreached
  have hrow :=
    runNamed_insert (d := ⟨false, true, tables⟩) rfl rfl hreached.wellNamed listing.names_perm hs
  refine (store_of_executeNamed (S := storage) (b := withTables tables) rfl hs).trans ?_
  change ((Database.runNamed s ⟨false, true, tables⟩).1,
    (⟨.fresh, (Database.runNamed s ⟨false, true, tables⟩).2⟩ : SqlBackend Database)) = _
  rw [hrow]
  cases (findTable? tables r.table).bind (r.putInto? listing.names) <;> rfl

/-- A record is stored in a table that can have a row for it. -/
theorem store (h : Stands calls as tables) (listing : r.fields.Listing) {s : NamedStatement}
    (hs : r.insert listing = .ok s) {t : Table}
    (hput : (findTable? tables r.table).bind (r.putInto? listing.names) = some t) :
    Stands (calls ++ [⟨.store, r, listing⟩]) (as ++ [⟨.store, r, .ok ()⟩]) (putTable t tables) := by
  have hstep := h.step_store hs
  rw [hput] at hstep
  exact h.concat ⟨.store, r, listing⟩ hstep

/-- A record is not stored for which there can be no row. -/
theorem fail (h : Stands calls as tables) (listing : r.fields.Listing) {s : NamedStatement}
    (hs : r.insert listing = .ok s)
    (hput : (findTable? tables r.table).bind (r.putInto? listing.names) = none) :
    Stands (calls ++ [⟨.store, r, listing⟩])
      (as ++ [⟨.store, r, .error (.storage "the statement failed")⟩]) tables := by
  have hstep := h.step_store hs
  rw [hput] at hstep
  exact h.concat ⟨.store, r, listing⟩ hstep

end Stands

/-- A record of the same table as `plain`, with nothing in one field. -/
def blank : Record := ⟨"T", ⟨[("a", .null)], by decide⟩⟩

/-- A record of which one field gets no column. -/
def halfNull : Record := ⟨"u", ⟨[("b", .int 1), ("c", .null)], by decide⟩⟩

/-- Two records are registered, and one of them cannot be stored. -/
def mixedCalls : List RecordCall :=
  [⟨.register, plain, .ascending _⟩, ⟨.store, plain, plainReversed⟩,
    ⟨.register, halfNull, .ascending _⟩, ⟨.store, blank, .ascending _⟩,
    ⟨.store, halfNull, .ascending _⟩]

/-- The answers to the calls. -/
def mixedAnswers : List Answered :=
  [⟨.register, plain, .ok ()⟩, ⟨.store, plain, .ok ()⟩, ⟨.register, halfNull, .ok ()⟩,
    ⟨.store, blank, .ok ()⟩, ⟨.store, halfNull, .error (.storage "the statement failed")⟩]

/-- The table made for `plain`, with some rows. -/
def plainTable (rows : Rows) (greatest : Int64) : Table :=
  { plain.tableMade with rows, greatest }

/-- The row of `plain`. -/
def plainRow : Row := ⟨1, [.int 1, .now, .int 1, .text "x"]⟩

/-- The row of `blank`. -/
def blankRow : Row := ⟨2, [.int 2, .now, .null, .null]⟩

theorem stands_mixed :
    ∃ tables, Stands mixedCalls mixedAnswers tables := by
  have hplain := Stands.nil.register (r := plain) (by decide) (by decide) (by decide) (by decide)
    (by decide) rfl
  have hrow := hplain.store plainReversed (t := plainTable ⟨[plainRow], by decide⟩ 1) rfl
    (by decide)
  have hnull := hrow.register (r := halfNull) (by decide) (by decide) (by decide) (by decide)
    (by decide) (by decide)
  have hblank := hnull.store (.ascending blank.fields)
    (t := plainTable ⟨[plainRow, blankRow], by decide⟩ 2) rfl (by decide)
  exact ⟨_, hblank.fail (.ascending halfNull.fields) rfl (by decide)⟩

/-- The records that were stored are kept in the table that was made for the first of them, whatever
the case of the letters in which the table is named; the one that could not be stored has left its
table without rows. -/
theorem kept_mixed :
    (∀ call ∈ mixedCalls, call.record.DistinctFields) ∧ OidHasColumn true mixedCalls ∧
      (∃ t, findTable? (behind true mixedCalls).state.tables "T" = some t ∧
        t.columns = plain.columnsMade ∧ t.Keeps [plain, blank]) ∧
      ∃ t, findTable? (behind true mixedCalls).state.tables "u" = some t ∧
        t.columns = halfNull.columnsMade ∧ t.Keeps [] := by
  have hdistinct : ∀ call ∈ mixedCalls, call.record.DistinctFields := by decide
  have hoid : OidHasColumn true mixedCalls := oidHasColumn_of_free (by decide)
  obtain ⟨hkept, -⟩ := kept_behind_calls hdistinct hoid
  obtain ⟨tables, -, hhistory⟩ := stands_mixed
  rw [hhistory] at hkept
  have hkeptOf {name : String} {r : Record} {stored : List Record}
      (hregistered : recordsDone .register name mixedAnswers = [r])
      (hstored : recordsDone .store name mixedAnswers = stored) :
      ∃ t, findTable? (behind true mixedCalls).state.tables name = some t ∧
        t.columns = r.columnsMade ∧ t.Keeps stored := by
    have h := hkept name
    rw [hregistered, hstored] at h
    cases hfind : findTable? (behind true mixedCalls).state.tables name with
    | none =>
      rw [hfind] at h
      cases h
    | some t =>
      rw [hfind] at h
      cases h with
      | table hname hcolumns hrows => exact ⟨t, rfl, hcolumns, hrows⟩
  exact ⟨hdistinct, hoid, hkeptOf (by decide) (by decide), hkeptOf (by decide) (by decide)⟩

/-- A record of one field. -/
def single : Record := ⟨"t", ⟨[("a", .int 1)], by decide⟩⟩

/-- A record that gives the number of its row. -/
def numbered : Record := ⟨"t", ⟨[("a", .int 2), ("oid", .int 1)], by decide⟩⟩

/-- One record is registered, and both are stored. -/
def numberedCalls : List RecordCall :=
  [⟨.register, single, .ascending _⟩, ⟨.store, single, .ascending _⟩,
    ⟨.store, numbered, .ascending _⟩]

/-- The table made for `single`, with one row. -/
def singleTable (n : Int64) : Table :=
  { single.tableMade with
    rows := ⟨[⟨1, [.int 1, .now, .int n]⟩], List.pairwise_singleton _ _⟩, greatest := 1 }

theorem stands_numbered :
    Stands numberedCalls
      [⟨.register, single, .ok ()⟩, ⟨.store, single, .ok ()⟩, ⟨.store, numbered, .ok ()⟩]
      [singleTable 2] := by
  have hmade := Stands.nil.register (r := single) (by decide) (by decide) (by decide) (by decide)
    (by decide) rfl
  have hone := hmade.store (.ascending single.fields) (t := singleTable 1) rfl (by decide)
  have htwo := hone.store (.ascending numbered.fields) (t := singleTable 2) rfl (by decide)
  have htables : putTable (singleTable 2) (putTable (singleTable 1) [single.tableMade])
      = [singleTable 2] := by decide
  exact htables ▸ htwo

/-- A record that gives the number of its row takes the place of the one that had the number, so
that of two records that were stored one is lost. -/
theorem numbered_takes_place :
    ¬ ∀ calls : List RecordCall, (∀ call ∈ calls, call.record.DistinctFields) → ∀ name t,
      findTable? (behind true calls).state.tables name = some t →
        t.rows.toList.length = (recordsDone .store name (history true calls)).length := by
  intro hall
  obtain ⟨hb, hhistory⟩ := stands_numbered
  have h := hall numberedCalls (by decide) "t" (singleTable 2) (by rw [hb]; decide)
  rw [hhistory] at h
  revert h
  decide

end SqlBackend

end RecordGateway
