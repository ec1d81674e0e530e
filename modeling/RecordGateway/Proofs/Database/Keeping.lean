import Mathlib.Data.List.Forall2
import Mathlib.Data.List.Pairwise
import RecordGateway.Proofs.Database.Statements

/-!
# What a table keeps of records

A row that is added for a record has the value of each field in the column of that name, as the
type of the column changes it, and nothing in the columns of other fields.  As long as no field
gives the number of a row, the rows are numbered from one as they are added (`Table.Keeps`), so that
none takes the place of another.
-/

namespace RecordGateway

/-- No two fields of a record have names that differ in case only. -/
def Record.DistinctFields (r : Record) : Prop :=
  r.columns.Pairwise fun f g ↦ Text.sameIgnoringCase f g = false

instance (r : Record) : Decidable r.DistinctFields :=
  inferInstanceAs (Decidable (r.columns.Pairwise _))

namespace Database

/-! ## Tables by their names -/

theorem sameIgnoringCase_congr {s t : String} (h : Text.sameIgnoringCase s t = true)
    (name : String) : Text.sameIgnoringCase s name = Text.sameIgnoringCase t name := by
  rw [Text.sameIgnoringCase, Text.sameIgnoringCase, Text.sameIgnoringCase_iff.1 h]

theorem sameIgnoringCase_congr_right {s t : String} (h : Text.sameIgnoringCase s t = true)
    (name : String) : Text.sameIgnoringCase name s = Text.sameIgnoringCase name t := by
  rw [Text.sameIgnoringCase, Text.sameIgnoringCase, Text.sameIgnoringCase_iff.1 h]

theorem findTable?_concat (tables : List Table) (t : Table) (name : String) :
    findTable? (tables ++ [t]) name
      = (findTable? tables name).or
          (if Text.sameIgnoringCase t.name name then some t else none) := by
  rw [findTable?, List.find?_append, ← findTable?, List.find?_singleton]

/-- A table that is put in the place of another is found by the names of that one. -/
theorem findTable?_putTable (t : Table) (tables : List Table) (name : String) :
    findTable? (putTable t tables) name
      = if Text.sameIgnoringCase t.name name then (findTable? tables name).map fun _ ↦ t
        else findTable? tables name := by
  induction tables with
  | nil => simp [putTable, findTable?]
  | cons s tables ih =>
    rw [findTable?] at ih
    simp only [findTable?, putTable]
    cases hs : Text.sameIgnoringCase s.name t.name with
    | true =>
      rw [if_pos rfl, List.find?_cons, List.find?_cons, sameIgnoringCase_congr hs]
      cases ht : Text.sameIgnoringCase t.name name <;> simp
    | false =>
      rw [if_neg (by decide), List.find?_cons, List.find?_cons, ih]
      cases hname : Text.sameIgnoringCase s.name name with
      | false => rfl
      | true =>
        have ht : Text.sameIgnoringCase t.name name = false := by
          rw [Text.sameIgnoringCase_comm, ← sameIgnoringCase_congr hname, hs]
        simp [ht]

/-- No two tables have one name. -/
def DistinctTables (tables : List Table) : Prop :=
  tables.Pairwise fun s t ↦ Text.sameIgnoringCase s.name t.name = false

theorem DistinctTables.concat {tables : List Table} (h : DistinctTables tables) {t : Table}
    (hnew : findTable? tables t.name = none) : DistinctTables (tables ++ [t]) := by
  refine List.pairwise_append.2 ⟨h, List.pairwise_singleton _ _, ?_⟩
  intro s hs t' ht'
  rw [List.mem_singleton.1 ht']
  exact Bool.eq_false_iff.2 (List.find?_eq_none.1 hnew s hs)

theorem map_name_putTable {t : Table} {tables : List Table} :
    (putTable t tables).map (fun s ↦ Text.folded s.name)
      = tables.map fun s ↦ Text.folded s.name := by
  induction tables with
  | nil => rfl
  | cons s tables ih =>
    rw [putTable]
    split
    next h => rw [List.map_cons, List.map_cons, Text.sameIgnoringCase_iff.1 h]
    next => rw [List.map_cons, List.map_cons, ih]

theorem distinctTables_iff {tables : List Table} :
    DistinctTables tables ↔ (tables.map fun s ↦ Text.folded s.name).Nodup := by
  rw [DistinctTables, List.Nodup, List.pairwise_map]
  simp only [← Text.sameIgnoringCase_iff, Bool.not_eq_true, ne_eq]

theorem DistinctTables.putTable {tables : List Table} (h : DistinctTables tables) (t : Table) :
    DistinctTables (putTable t tables) := by
  rwa [distinctTables_iff, map_name_putTable, ← distinctTables_iff]

/-! ## Numbers -/

theorem Rows.putRow_eq_concat {rs : List Row} {r : Row} (h : ∀ s ∈ rs, s.number < r.number) :
    putRow r rs = rs ++ [r] := by
  induction rs with
  | nil => rfl
  | cons s rs ih =>
    have hs := Int64.lt_iff_toInt_lt.1 (h s (.head _))
    have hlt : ¬r.number < s.number := by
      rw [Int64.lt_iff_toInt_lt]
      omega
    have hne : r.number ≠ s.number := by
      intro heq
      rw [heq] at hs
      omega
    rw [putRow, if_neg hlt, if_neg hne, ih fun u hu ↦ h u (.tail _ hu), List.cons_append]

/-- The next number is one above the greatest. -/
theorem Table.of_nextNumber? {t : Table} {n : Int64} (h : t.nextNumber? = some n) :
    n.toInt = t.greatest.toInt + 1 := by
  rw [nextNumber?] at h
  split at h
  next => cases h
  next hne =>
    cases h
    have hle := t.greatest.toInt_le
    have hge := t.greatest.le_toInt
    have hne' : t.greatest.toInt ≠ Int64.maxValue.toInt := fun heq ↦ hne (Int64.toInt_inj.1 heq)
    rw [Int64.toInt_maxValue] at hle hne'
    rw [Int64.toInt_add]
    have hone : (1 : Int64).toInt = 1 := by decide
    rw [hone]
    exact Int.bmod_eq_of_le (by omega) (by omega)

/-! ## Rows of records -/

/-- What a column has in the row of a record. -/
structure IsCell (r : Record) (number : Int64) (c : Column) (cell : Cell) : Prop where
  rowid : c.filling = .rowid → cell = .int number
  created : c.filling = .now → cell = .now
  /-- The column of a field has its value. -/
  named : ∀ f v, r.get? f = some v → Text.sameIgnoringCase f c.name = true →
    cell = (Affinity.ofType c.type).apply (.ofValue v)
  /-- The column of no field has nothing. -/
  unnamed : c.filling = .null → (∀ f ∈ r.columns, Text.sameIgnoringCase f c.name = false) →
    cell = .null

/-- The row of a record, the columns being those of its table. -/
structure IsRow (columns : List Column) (number : Int) (r : Record) (row : Row) : Prop where
  number : row.number.toInt = number
  /-- Every field has a column. -/
  placed : ∀ f ∈ r.columns, ∃ c ∈ columns,
    c.filling = .null ∧ Text.sameIgnoringCase f c.name = true
  cells : List.Forall₂ (IsCell r row.number) columns row.cells

/-- The rows of a table are those of some records, in their order and numbered from one. -/
structure Table.Keeps (t : Table) (stored : List Record) : Prop where
  length : t.rows.toList.length = stored.length
  row : ∀ (n : Nat) r row, stored[n]? = some r → t.rows.toList[n]? = some row →
    IsRow t.columns (n + 1) r row
  greatest : t.greatest.toInt = stored.length

variable {r made : Record} {cs : List String} {t t' : Table} {c : Column} {f : String}

/-- A column that is no generated one is filled by nothing but values. -/
theorem filling_of_mem_columnsMade (hc : c ∈ made.columnsMade)
    (hgen : Record.isGenerated f = false) (hsame : Text.sameIgnoringCase c.name f = true) :
    c.filling = .null := by
  rcases List.mem_append.1 hc with hc | hc
  · rw [Record.isGenerated, List.any_eq_false] at hgen
    simp only [List.mem_cons, List.not_mem_nil, or_false] at hc
    rcases hc with rfl | rfl
    · exact absurd hsame (hgen _ (.head _))
    · exact absurd hsame (hgen _ (.tail _ (.head _)))
  · obtain ⟨g, -, rfl⟩ := List.mem_map.1 hc
    rfl

/-- What a row is given for a field, by the name of a column. -/
theorem find?_cells (hdistinct : r.DistinctFields) (hcs : cs.Perm r.columns) (hf : f ∈ r.columns)
    {name : String} (hsame : Text.sameIgnoringCase f name = true) :
    ((r.cells cs).find? fun v ↦ Text.sameIgnoringCase v.1 name) = some (f, r.cell f) := by
  cases h : (r.cells cs).find? fun v ↦ Text.sameIgnoringCase v.1 name with
  | none =>
    have hmem : (f, r.cell f) ∈ r.cells cs := List.mem_map_of_mem (hcs.mem_iff.2 hf)
    exact absurd hsame (List.find?_eq_none.1 h _ hmem)
  | some v =>
    have hname := List.find?_some h
    obtain ⟨g, hg, rfl⟩ := List.mem_map.1 (List.mem_of_find?_eq_some h)
    by_cases heq : g = f
    · rw [heq]
    · have : Std.Symm fun f g ↦ Text.sameIgnoringCase f g = false :=
        ⟨fun a b hab ↦ by rwa [Text.sameIgnoringCase_comm]⟩
      have hne := List.Pairwise.forall hdistinct (hcs.mem_iff.1 hg) hf heq
      rw [sameIgnoringCase_congr hname, Text.sameIgnoringCase_comm, hsame] at hne
      cases hne

theorem isCell_newCell (hc : c ∈ made.columnsMade) (hdistinct : r.DistinctFields)
    (hcs : cs.Perm r.columns) (hgen : ∀ f ∈ r.columns, Record.isGenerated f = false)
    (number : Int64) : IsCell r number c (Table.newCell number (r.cells cs) c) where
  rowid h := by rw [Table.newCell, h]
  created h := by
    rw [Table.newCell, h]
    cases hfind : (r.cells cs).find? fun v ↦ Text.sameIgnoringCase v.1 c.name with
    | none => rfl
    | some v =>
      have hsame := List.find?_some hfind
      obtain ⟨g, hg, rfl⟩ := List.mem_map.1 (List.mem_of_find?_eq_some hfind)
      rw [Text.sameIgnoringCase_comm] at hsame
      have hfilling := filling_of_mem_columnsMade hc (hgen g (hcs.mem_iff.1 hg)) hsame
      rw [h] at hfilling
      cases hfilling
  named f v hv hsame := by
    have hf : f ∈ r.columns := Record.mem_columns_iff.2 ⟨v, hv⟩
    rw [Text.sameIgnoringCase_comm] at hsame
    have hfilling := filling_of_mem_columnsMade hc (hgen f hf) hsame
    rw [Text.sameIgnoringCase_comm] at hsame
    rw [Table.newCell, hfilling, find?_cells hdistinct hcs hf hsame, Record.cell, hv]
    rfl
  unnamed h hnone := by
    have hfind : ((r.cells cs).find? fun v ↦ Text.sameIgnoringCase v.1 c.name) = none := by
      rw [List.find?_eq_none]
      intro v hv
      obtain ⟨g, hg, rfl⟩ := List.mem_map.1 hv
      exact Bool.eq_false_iff.1 (hnone g (hcs.mem_iff.1 hg))
    rw [Table.newCell, h, hfind]

/-- The row that is added for a record, of which no field gives the number. -/
theorem of_addRow?_cells (hnumber : ∀ f ∈ cs, t.namesNumber f = false)
    (h : t.addRow? (r.cells cs) = some t') :
    ∃ n, n.toInt = t.greatest.toInt + 1 ∧
      t' = { t with
        rows := t.rows.insert ⟨n, t.columns.map (Table.newCell n (r.cells cs))⟩
        greatest := max t.greatest n } := by
  rw [Table.addRow?, Option.bind_eq_bind, Option.bind_eq_some_iff] at h
  obtain ⟨n, hn, h⟩ := h
  cases h
  rw [newNumber?_cells hnumber] at hn
  exact ⟨n, Table.of_nextNumber? hn, rfl⟩

namespace Table.Keeps

variable {stored : List Record}

theorem empty (name : String) (columns : List Column) : Keeps ⟨name, columns, ∅, 0⟩ [] where
  length := rfl
  row n r row h := by cases h
  greatest := rfl

/-- Every row has a number up to the greatest one. -/
theorem number_le (h : t.Keeps stored) {row : Row} (hrow : row ∈ t.rows.toList) :
    row.number.toInt ≤ t.greatest.toInt := by
  obtain ⟨i, hi, rfl⟩ := List.getElem_of_mem hrow
  have hi' : i < stored.length := h.length ▸ hi
  have hnumber := (h.row i _ _ (List.getElem?_eq_getElem hi') (List.getElem?_eq_getElem hi)).number
  rw [hnumber, h.greatest]
  omega

/-- One more row stands behind all others. -/
theorem insert (h : t.Keeps stored) {row : Row} (hnumber : row.number.toInt = t.greatest.toInt + 1)
    (hrow : IsRow t.columns (stored.length + 1) r row) :
    Keeps { t with rows := t.rows.insert row, greatest := max t.greatest row.number }
      (stored ++ [r]) := by
  have hlt : ∀ s ∈ t.rows.toList, s.number < row.number := by
    intro s hs
    have hle := h.number_le hs
    rw [Int64.lt_iff_toInt_lt]
    omega
  have hrows : (t.rows.insert row).toList = t.rows.toList ++ [row] := Rows.putRow_eq_concat hlt
  refine ⟨?_, ?_, ?_⟩
  · rw [hrows, List.length_append, List.length_append, h.length, List.length_singleton,
      List.length_singleton]
  · intro n r' row' hr' hrow'
    rw [hrows] at hrow'
    rcases Nat.lt_trichotomy n stored.length with hn | rfl | hn
    · rw [List.getElem?_append_left hn] at hr'
      rw [List.getElem?_append_left (h.length ▸ hn)] at hrow'
      exact h.row n r' row' hr' hrow'
    · rw [List.getElem?_concat_length] at hr'
      rw [← h.length, List.getElem?_concat_length] at hrow'
      cases hr'
      cases hrow'
      exact hrow
    · rw [List.getElem?_eq_none (by rw [List.length_append]; exact hn)] at hr'
      cases hr'
  · have hle : t.greatest ≤ row.number := by
      rw [Int64.le_iff_toInt_le]
      omega
    change (max t.greatest row.number).toInt = _
    rw [show max t.greatest row.number = row.number from if_pos hle, hnumber, h.greatest,
      List.length_append, List.length_singleton]
    rfl

/-- A table that keeps some records keeps one more behind them. -/
theorem putInto? (h : t.Keeps stored)
    (hcolumns : t.columns = made.columnsMade) (hvalid : r.isValid = true)
    (hgen : ∀ f ∈ r.columns, Record.isGenerated f = false) (hdistinct : r.DistinctFields)
    (hoid : ∀ f ∈ r.columns, Text.sameIgnoringCase "oid" f = true → (t.find? f).isSome = true)
    (hcs : cs.Perm r.columns) (hput : r.putInto? cs t = some t') :
    t'.name = t.name ∧ t'.columns = t.columns ∧ t'.Keeps (stored ++ [r]) := by
  rw [Record.putInto?] at hput
  split at hput
  next haccepts =>
    rw [Bool.and_eq_true, List.all_eq_true] at haccepts
    have hfind : ∀ f ∈ r.columns, ∃ c, t.find? f = some c := fun f hf ↦
      exists_find?_of_accepts (Record.isValid_of_mem_columns hvalid hf) (hgen f hf)
        (haccepts.1 f (hcs.mem_iff.2 hf)) (hoid f hf)
    have hnumber : ∀ f ∈ cs, t.namesNumber f = false := by
      intro f hf
      obtain ⟨c, hc⟩ := hfind f (hcs.mem_iff.1 hf)
      exact (numbersByRowid_of_columns hcolumns).namesNumber_eq_false
        (hgen f (hcs.mem_iff.1 hf)) hc
    obtain ⟨n, hn, rfl⟩ := of_addRow?_cells hnumber hput
    refine ⟨rfl, rfl, h.insert hn ⟨?_, ?_, ?_⟩⟩
    · rw [hn, h.greatest]
    · intro f hf
      obtain ⟨c, hc⟩ := hfind f hf
      have hmem := List.mem_of_find?_eq_some hc
      have hsame := List.find?_some hc
      refine ⟨c, hmem, filling_of_mem_columnsMade (hcolumns ▸ hmem) (hgen f hf) hsame, ?_⟩
      rwa [Text.sameIgnoringCase_comm]
    · rw [List.forall₂_map_right_iff, List.forall₂_same]
      intro c hc
      exact isCell_newCell (hcolumns ▸ hc) hdistinct hcs hgen n
  next => cases hput

end Table.Keeps

end Database

end RecordGateway
