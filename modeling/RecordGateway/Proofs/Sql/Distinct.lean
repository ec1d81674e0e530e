import RecordGateway.Proofs.Sql.Shape

/-!
# Columns whose names differ only in case

A database takes names that differ only in the case of letters for one name.  No field shares the
name of a generated column in this sense, and no column is listed twice in the same letters.  But
two fields may share a name in this sense, and then a statement names one column twice.
-/

namespace RecordGateway

/-- No two of the names are the same ignoring case. -/
def DistinctIgnoringCase (names : List String) : Prop := (names.map Text.folded).Nodup

instance (names : List String) : Decidable (DistinctIgnoringCase names) :=
  inferInstanceAs (Decidable (List.Nodup _))

/-- Among distinct names, what counts is that none of them becomes another. -/
theorem distinctIgnoringCase_iff {names : List String} (h : names.Nodup) :
    DistinctIgnoringCase names ↔
      ∀ c ∈ names, ∀ c' ∈ names, Text.sameIgnoringCase c c' = true → c = c' := by
  simp only [DistinctIgnoringCase, Text.sameIgnoringCase_iff]
  exact List.nodup_map_iff_inj_on h

namespace Record

variable {r : Record}

/-- The names of generated columns are these two, in any case of letters. -/
theorem isGenerated_eq_false_iff {c : String} :
    isGenerated c = false ↔ ∀ g ∈ ["rowid", "created"], Text.sameIgnoringCase g c = false := by
  simp [isGenerated, generatedColumns]

/-- Columns that are not named like a generated one are as distinct behind the generated ones as
on their own. -/
theorem distinctIgnoringCase_generated {names : List String}
    (h : ∀ c ∈ names, isGenerated c = false) :
    DistinctIgnoringCase ("rowid" :: "created" :: names) ↔ DistinctIgnoringCase names := by
  have hne {g : String} (hg : g ∈ ["rowid", "created"]) :
      Text.folded g ∉ names.map Text.folded := by
    intro hmem
    obtain ⟨c, hc, heq⟩ := List.mem_map.1 hmem
    have hfalse := isGenerated_eq_false_iff.1 (h c hc) g hg
    rw [Text.sameIgnoringCase_iff.2 heq.symm] at hfalse
    cases hfalse
  have hpair : Text.folded "rowid" ≠ Text.folded "created" := by decide
  simp [DistinctIgnoringCase, hne (.head _), hne (.tail _ (.head _)), hpair]

/-- A field that is not null is a field. -/
theorem HasColumn.mem_columns {c : String} {k : Kind} (h : r.HasColumn c k) : c ∈ r.columns :=
  mem_columns_iff.2 (h.imp fun _ ↦ And.left)

/-- The fields that columns are declared for are told apart by more than case exactly if their
columns are. -/
theorem distinctIgnoringCase_declared :
    DistinctIgnoringCase (r.declaredFields.map Prod.fst) ↔ ∀ c k, r.HasColumn c k →
      ∀ c' k', r.HasColumn c' k' → Text.sameIgnoringCase c c' = true → c = c' := by
  rw [distinctIgnoringCase_iff r.declaredFields_nodup]
  simp only [mem_declaredNames_iff, forall_exists_index]

/-- **A column is named twice only by two fields.**  The columns of the table of a record are the
generated ones and others that are not named like these, and none of them is listed twice.  They
are distinct ignoring case exactly if no two fields that are not null have names that differ only
in case.  The same holds of the statement that puts the record into its table, without the
generated columns and for all fields. -/
theorem distinct_iff_fields (r : Record) :
    (∀ tag s, r.create tag = .ok s → ∃ names,
      Listing.columnsOf s = "rowid" :: "created" :: names ∧ names.Nodup ∧
      (∀ c ∈ names, ∀ g ∈ ["rowid", "created"], Text.sameIgnoringCase g c = false) ∧
      (DistinctIgnoringCase (Listing.columnsOf s) ↔ ∀ c k, r.HasColumn c k →
        ∀ c' k', r.HasColumn c' k' → Text.sameIgnoringCase c c' = true → c = c')) ∧
    ∀ cs s, cs.Perm r.columns → r.insertListing cs = .ok s →
      (Listing.columnsOf s.sql).Nodup ∧
      (∀ c ∈ Listing.columnsOf s.sql, ∀ g ∈ ["rowid", "created"],
        Text.sameIgnoringCase g c = false) ∧
      (DistinctIgnoringCase (Listing.columnsOf s.sql) ↔ ∀ c ∈ r.columns, ∀ c' ∈ r.columns,
        Text.sameIgnoringCase c c' = true → c = c') := by
  constructor
  · intro tag s hs
    obtain ⟨d, -, hs⟩ := create_eq_ok_iff.1 hs
    have hgen : ∀ c ∈ r.declaredFields.map Prod.fst, isGenerated c = false := by
      intro c hc
      obtain ⟨k, h⟩ := mem_declaredNames_iff.1 hc
      exact (createIn_eq_ok_iff.1 hs).2.1 c h.mem_columns
    refine ⟨_, columnsOf_createIn hs, r.declaredFields_nodup,
      fun c hc ↦ isGenerated_eq_false_iff.1 (hgen c hc), ?_⟩
    rw [columnsOf_createIn hs, distinctIgnoringCase_generated hgen, distinctIgnoringCase_declared]
  · intro cs s hcs hs
    have hgen := (insertListing_eq_ok_iff.1 hs).2.2.1
    have hnodup : cs.Nodup := hcs.nodup_iff.2 r.columns_nodup
    rw [(read_insertListing hcs hs).2, distinctIgnoringCase_iff hnodup]
    refine ⟨hnodup, fun c hc ↦ isGenerated_eq_false_iff.1 (hgen c (hcs.mem_iff.1 hc)), ?_⟩
    simp only [hcs.mem_iff]

/-- Two fields whose names differ only in case, one of them null. -/
def halfNull : Record := ⟨"t", ⟨[("A", .null), ("a", .int 1)], by decide⟩⟩

/-- The columns of the table are distinct, but those that values are put into are not. -/
theorem distinct_iff_fields_halfNull :
    ∃ made s, halfNull.create "sqlite3" = .ok made ∧ ["a", "A"].Perm halfNull.columns ∧
      halfNull.insertListing ["a", "A"] = .ok s ∧ DistinctIgnoringCase (Listing.columnsOf made) ∧
      (Listing.columnsOf s.sql).Nodup ∧ ¬DistinctIgnoringCase (Listing.columnsOf s.sql) := by
  obtain ⟨made, hmade⟩ := exists_create (r := halfNull) (by decide) (by decide) .sqlite
  obtain ⟨s, hs⟩ := exists_insertListing (r := halfNull) (by decide) (by decide) (by decide)
    ["a", "A"]
  have hperm : ["a", "A"].Perm halfNull.columns := by decide
  obtain ⟨hcreate, hinsert⟩ := distinct_iff_fields halfNull
  obtain ⟨names, -, -, -, hmadeIff⟩ := hcreate _ _ hmade
  obtain ⟨hnodup, -, hsIff⟩ := hinsert _ _ hperm hs
  refine ⟨made, s, hmade, hperm, hs, hmadeIff.2 ?_, hnodup, ?_⟩
  · have hone {c : String} {k : Kind} (h : halfNull.HasColumn c k) : c = "a" := by
      have hnames : halfNull.declaredFields.map Prod.fst = ["a"] := by decide
      rw [← List.mem_singleton, ← hnames]
      exact mem_declaredNames_iff.2 ⟨k, h⟩
    intro c k h c' k' h' _
    rw [hone h, hone h']
  · rw [hsIff]
    decide

/-- Two fields with values whose names differ only in case. -/
def lettered : Record := ⟨"t", ⟨[("A", .int 2), ("a", .int 1)], by decide⟩⟩

/-- Statements are made for such a record that name a column twice. -/
theorem columns_collide :
    (∀ d : Dialect, ∃ s, lettered.create d.tag = .ok s ∧
      ¬DistinctIgnoringCase (Listing.columnsOf s)) ∧
    ∃ s, lettered.insert = .ok s ∧ ¬DistinctIgnoringCase (Listing.columnsOf s.sql) := by
  constructor
  · intro d
    obtain ⟨s, hs⟩ := exists_create (r := lettered) (by decide) (by decide) d
    obtain ⟨d', -, hs'⟩ := create_eq_ok_iff.1 hs
    refine ⟨s, hs, ?_⟩
    rw [columnsOf_createIn hs']
    decide
  · obtain ⟨s, hs⟩ := exists_insertListing (r := lettered) (by decide) (by decide) (by decide)
      lettered.columns
    refine ⟨s, hs, ?_⟩
    rw [(read_insertListing (.refl _) hs).2]
    decide

end Record

end RecordGateway
