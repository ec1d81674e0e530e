import RecordGateway.Database.Table
import RecordGateway.Proofs.Database.Reading

/-!
# The names in tables

Whatever statements are run, no column of a table comes to be named by a reserved word, so a row
can be given a value under such a word in no table.
-/

namespace RecordGateway.Database

/-- No column of any of the tables is named by a reserved word. -/
def WellNamed (tables : List Table) : Prop :=
  ∀ t ∈ tables, ∀ c ∈ t.columns, isReserved c.name.toList = false

theorem isReserved_congr {s t : String} (h : Text.sameIgnoringCase s t = true) :
    isReserved s.toList = isReserved t.toList := by
  have hfolded : s.toList.map Char.toLower = t.toList.map Char.toLower :=
    Text.sameIgnoringCase_iff.1 h
  rw [isReserved, isReserved, hfolded]

theorem isReserved_of_mem_numberNames :
    ∀ n ∈ Table.numberNames, isReserved n.toList = false := by
  decide

/-- No value can be given under a reserved word. -/
theorem Table.accepts_of_isReserved {t : Table}
    (ht : ∀ c ∈ t.columns, isReserved c.name.toList = false) {name : String}
    (h : isReserved name.toList = true) : t.accepts name = false := by
  have hfind : t.find? name = none := by
    rw [Table.find?, List.find?_eq_none]
    intro c hc hsame
    rw [← isReserved_congr hsame, ht c hc] at h
    cases h
  have hnumber : (numberNames.any fun n ↦ Text.sameIgnoringCase n name) = false := by
    rw [List.any_eq_false]
    intro n hn hsame
    rw [← isReserved_congr hsame, isReserved_of_mem_numberNames n hn] at h
    cases h
  simp only [accepts, namesNumber, hfind, hnumber]
  rfl

theorem mem_putTable {s t : Table} {tables : List Table} (h : s ∈ putTable t tables) :
    s = t ∨ s ∈ tables := by
  induction tables with
  | nil => cases h
  | cons u tables ih =>
    rw [putTable] at h
    split at h
    · rcases List.mem_cons.1 h with h | h
      · exact .inl h
      · exact .inr (.tail _ h)
    · rcases List.mem_cons.1 h with h | h
      · exact .inr (h ▸ .head _)
      · exact (ih h).imp_right (.tail _)

/-- A new row leaves the name and the columns of a table as they are. -/
theorem Table.of_addRow? {t t' : Table} {values : List (String × Cell)}
    (h : t.addRow? values = some t') : t'.name = t.name ∧ t'.columns = t.columns := by
  rw [addRow?, Option.bind_eq_bind, Option.bind_eq_some_iff] at h
  obtain ⟨number, -, h⟩ := h
  cases h
  exact ⟨rfl, rfl⟩

theorem mem_of_findTable? {tables : List Table} {name : String} {t : Table}
    (h : findTable? tables name = some t) : t ∈ tables :=
  List.mem_of_find?_eq_some h

theorem wellNamed_runCommand {passed : List Cell} {tables tables' : List Table} {sql : String}
    {c : Command} (hread : Command.read? sql = some c) (h : WellNamed tables)
    (hrun : runCommand passed tables c = some tables') : WellNamed tables' := by
  cases c with
  | createTable name columns =>
    rw [runCommand] at hrun
    split at hrun
    · cases hrun
      exact h
    · split at hrun
      · cases hrun
        intro t ht
        rcases List.mem_append.1 ht with ht | ht
        · exact h t ht
        · rw [List.mem_singleton.1 ht]
          exact Command.isReserved_of_read? hread
      · cases hrun
  | insertRow name columns values =>
    rw [runCommand] at hrun
    split at hrun
    · cases hrun
    next t ht =>
      split at hrun
      · rw [Option.map_eq_some_iff] at hrun
        obtain ⟨t', ht', rfl⟩ := hrun
        intro s hs
        rcases mem_putTable hs with rfl | hs
        · rw [(Table.of_addRow? ht').2]
          exact h t (mem_of_findTable? ht)
        · exact h s hs
      · cases hrun


variable {d : Database}

/-- A statement takes effect as the command that is read from its text. -/
theorem run_eq_ok_iff {sql : String} {passed : List Cell} {d' : Database} :
    d.run sql passed = (.ok (), d') ↔ d.closed = false ∧ d.writable = true ∧
      ∃ c tables, Command.read? sql = some c ∧ runCommand passed d.tables c = some tables ∧
        d' = { d with tables } := by
  have hbind : (∃ c tables, Command.read? sql = some c ∧
      runCommand passed d.tables c = some tables ∧ d' = { d with tables }) ↔
        ∃ tables, (Command.read? sql).bind (runCommand passed d.tables) = some tables ∧
          d' = { d with tables } := by
    simp only [Option.bind_eq_some_iff]
    constructor
    · rintro ⟨c, tables, hc, htables, hd'⟩
      exact ⟨tables, ⟨c, hc, htables⟩, hd'⟩
    · rintro ⟨tables, ⟨c, hc, htables⟩, hd'⟩
      exact ⟨c, tables, hc, htables, hd'⟩
  rw [hbind, run]
  cases d.closed with
  | true => simp
  | false =>
    cases d.writable with
    | false => simp
    | true =>
      cases (Command.read? sql).bind (runCommand passed d.tables) with
      | none => simp
      | some tables => simp [eq_comm]

theorem wellNamed_run (h : WellNamed d.tables) (sql : String) (passed : List Cell) :
    WellNamed (d.run sql passed).2.tables := by
  rw [run]
  split
  · exact h
  split
  · exact h
  split
  · exact h
  next tables htables =>
    obtain ⟨c, hread, hrun⟩ := Option.bind_eq_some_iff.1 htables
    exact wellNamed_runCommand hread h hrun

theorem wellNamed_runNamed (h : WellNamed d.tables) (s : NamedStatement) :
    WellNamed (d.runNamed s).2.tables := by
  rw [runNamed]
  split
  · exact h
  next n _ => exact wellNamed_run h n.sql _

end RecordGateway.Database
