import Mathlib.Data.List.Nodup
import RecordGateway.Proofs.Sql.Columns
import RecordGateway.Proofs.Text.Utf8

/-!
# The shape that a statement shows

The text that makes a table shows the table of a record and the kind of each field that is not
null, and it depends on nothing else of the record: two records have one text exactly if these
agree.  The text that puts a record into its table shows in the same way which fields the record
has.  The fields may be gone through in any order, because their names are sorted by their bytes.
-/

namespace RecordGateway

namespace Record

open Text (Utf8.encode)

/-! ## Fields in any order -/

/-- Names in the order of their bytes. -/
def byteSorted (names : List String) : List String :=
  names.mergeSort fun s t ↦ !decide (Utf8.encode t < Utf8.encode s)

/-- The fields that are not null, with their kinds, by the bytes of their names. -/
def declaredAmong (fields : List (String × Value)) : List (String × Kind) :=
  (byteSorted (fields.map Prod.fst)).filterMap fun c ↦
    match fields.lookup c with
    | none | some .null => none
    | some v => some (c, v.kind)

/-- The statement that makes a table for fields, which are gone through as they are listed. -/
def createThrough (tag table : String) (fields : List (String × Value)) :
    Except SqlError String :=
  match Dialect.ofTag tag with
  | .error e => .error e
  | .ok d =>
    if !(Identifier.isValid table
        && fields.all fun f ↦ Identifier.isValid f.1 && f.2.isClassified) then
      .error .invalidRecord
    else
      match (byteSorted (fields.map Prod.fst)).find? isGenerated with
      | some c => .error (.reservedColumn c)
      | none =>
        match declarations d (generatedColumns ++ declaredAmong fields) with
        | .error e => .error e
        | .ok ds => .ok (createText table ds)

variable {r : Record}

theorem byteSorted_of_perm {cs : List String} (hcs : cs.Perm r.columns) :
    byteSorted cs = r.columns := by
  have hle (s t : String) : (!decide (Utf8.encode t < Utf8.encode s)) = true ↔ s ≤ t := by
    rw [Bool.not_eq_true', decide_eq_false_iff_not, Text.Utf8.encode_lt_encode_iff, Std.not_lt]
  have hsorted : (byteSorted cs).Pairwise (· ≤ ·) := by
    refine (List.pairwise_mergeSort ?_ ?_ cs).imp fun h ↦ (hle _ _).1 h
    · intro s t u hst htu
      rw [hle] at hst htu ⊢
      exact String.le_trans hst htu
    · intro s t
      rw [Bool.or_eq_true, hle, hle]
      exact String.le_total s t
  have hcolumns : r.columns.Pairwise (· ≤ ·) := r.fields.keys_ascending.imp Std.le_of_lt
  exact ((List.mergeSort_perm ..).trans hcs).eq_of_pairwise
    (fun _ _ _ _ ↦ String.le_antisymm) hsorted hcolumns

theorem declaredAmong_of_perm {fields : List (String × Value)}
    (h : fields.Perm r.fields.entries) : declaredAmong fields = r.declaredFields := by
  have hcolumns : byteSorted (fields.map Prod.fst) = r.fields.entries.map Prod.fst :=
    byteSorted_of_perm (h.map Prod.fst)
  rw [declaredAmong, hcolumns, List.filterMap_map, declaredFields, ← List.filterMap_eq_map,
    List.filterMap_filter]
  refine List.filterMap_congr ?_
  rintro ⟨c, v⟩ hf
  have hlookup : fields.lookup c = some v := by
    rw [NameMap.lookup_of_perm h]
    exact NameMap.get?_eq_some_iff.2 hf
  rw [Function.comp_apply, hlookup]
  cases v <;> rfl

/-- It does not matter in which order the fields of a record are gone through. -/
theorem createThrough_of_perm {fields : List (String × Value)} (h : fields.Perm r.fields.entries)
    (tag : String) : createThrough tag r.table fields = r.create tag := by
  have hcolumns : byteSorted (fields.map Prod.fst) = r.columns :=
    byteSorted_of_perm (h.map Prod.fst)
  simp only [createThrough, declaredAmong_of_perm h, hcolumns, h.all_eq, ← tableColumns_eq, create]
  cases Dialect.ofTag tag with
  | error e => rfl
  | ok d =>
    simp only [createIn, checkGenerated, isValid]
    cases r.columns.find? isGenerated <;> rfl

/-- It does not matter in which order a record is filled with its fields. -/
theorem ofList_of_perm {fields : List (String × Value)} (h : fields.Perm r.fields.entries) :
    ofList r.table fields = r := by
  rw [ofList, NameMap.ofList_of_perm h]

/-! ## What a text shows -/

/-- The record has a field of a name that is not null, and its value is of a kind. -/
def HasColumn (r : Record) (c : String) (k : Kind) : Prop :=
  ∃ v, r.get? c = some v ∧ v ≠ .null ∧ v.kind = k

theorem declaredFields_ascending (r : Record) :
    r.declaredFields.Pairwise fun a b ↦ a.1 < b.1 := by
  rw [declaredFields, List.pairwise_map]
  exact r.fields.ascending.filter _

/-- The fields that columns are declared for are determined by what they are. -/
theorem declaredFields_eq_iff {a b : Record} :
    a.declaredFields = b.declaredFields ↔ ∀ c k, a.HasColumn c k ↔ b.HasColumn c k := by
  constructor
  · intro h c k
    have hmem : (c, k) ∈ a.declaredFields ↔ (c, k) ∈ b.declaredFields := by rw [h]
    rwa [mem_declaredFields_iff, mem_declaredFields_iff] at hmem
  · intro h
    refine NameMap.eq_of_ascending Prod.fst a.declaredFields_ascending b.declaredFields_ascending ?_
    rintro ⟨c, k⟩
    rw [mem_declaredFields_iff, mem_declaredFields_iff]
    exact h c k

theorem create_eq_ok_iff {tag sql : String} :
    r.create tag = .ok sql ↔ ∃ d, Dialect.ofTag tag = .ok d ∧ r.createIn d = .ok sql := by
  rw [create]
  cases Dialect.ofTag tag <;> simp

/-- Statements are made for every valid record without a field named like a generated column. -/
theorem exists_create (hvalid : r.isValid = true) (hgen : ∀ c ∈ r.columns, isGenerated c = false)
    (d : Dialect) : ∃ s, r.create d.tag = .ok s :=
  ⟨_, create_eq_ok_iff.2 ⟨d, Dialect.ofTag_tag d, createIn_eq_ok_iff.2 ⟨hvalid, hgen, rfl⟩⟩⟩

theorem exists_insertListing (hvalid : r.isValid = true) (hne : r.isEmpty = false)
    (hgen : ∀ c ∈ r.columns, isGenerated c = false) (cs : List String) :
    ∃ s, r.insertListing cs = .ok s :=
  ⟨_, insertListing_eq_ok_iff.2 ⟨hvalid, hne, hgen, rfl⟩⟩

theorem tableColumns_ne_nil (r : Record) : r.tableColumns ≠ [] := by
  rw [tableColumns_eq, generatedColumns]
  simp

/-- The text that makes a table shows its name and which columns it has, with their kinds. -/
theorem read_createIn {d : Dialect} {s : String} (hs : r.createIn d = .ok s) :
    Listing.tableOf s = r.table ∧
      Listing.declaredOf d s = r.tableColumns.map fun c ↦ (c.1, some c.2) := by
  obtain ⟨hvalid, -, rfl⟩ := createIn_eq_ok_iff.1 hs
  have htable := (isValid_iff.1 hvalid).1
  have hcolumns : ∀ c ∈ r.tableColumns, _ := fun c hc ↦ of_mem_tableColumns hvalid hc
  exact ⟨(Listing.read_createText htable d r.tableColumns_ne_nil fun c hc ↦ (hcolumns c hc).1).1,
    Listing.declaredOf_createText htable r.tableColumns_ne_nil hcolumns⟩

/-- The columns of a table are the generated ones and then the fields that are not null. -/
theorem columnsOf_createIn {d : Dialect} {s : String} (hs : r.createIn d = .ok s) :
    Listing.columnsOf s = "rowid" :: "created" :: r.declaredFields.map Prod.fst := by
  rw [Listing.columnsOf_eq_map_declaredOf d, (read_createIn hs).2, tableColumns_eq,
    generatedColumns, List.map_map]
  rfl

/-- Tables are made by one text exactly if their names and their columns agree. -/
theorem createIn_inj {a b : Record} {d : Dialect} {s t : String} (hs : a.createIn d = .ok s)
    (ht : b.createIn d = .ok t) :
    s = t ↔ a.table = b.table ∧ a.declaredFields = b.declaredFields := by
  constructor
  · rintro rfl
    obtain ⟨htable, hcolumns⟩ := read_createIn hs
    obtain ⟨htable', hcolumns'⟩ := read_createIn ht
    have hinj : Function.Injective fun c : String × Kind ↦ (c.1, some c.2) := by
      rintro ⟨c, k⟩ ⟨c', k'⟩ h
      simpa using h
    have heq := List.map_injective_iff.2 hinj (hcolumns.symm.trans hcolumns')
    rw [tableColumns_eq, tableColumns_eq] at heq
    exact ⟨htable.symm.trans htable', List.append_cancel_left heq⟩
  · rintro ⟨htable, hfields⟩
    rw [(createIn_eq_ok_iff.1 hs).2.2, (createIn_eq_ok_iff.1 ht).2.2, tableColumns_eq,
      tableColumns_eq, htable, hfields]

/-- The text that puts a record into its table shows its name and the columns of the listing. -/
theorem read_insertListing {cs : List String} {s : NamedStatement} (hcs : cs.Perm r.columns)
    (hs : r.insertListing cs = .ok s) :
    Listing.tableOf s.sql = r.table ∧ Listing.columnsOf s.sql = cs := by
  obtain ⟨hvalid, hempty, -, rfl⟩ := insertListing_eq_ok_iff.1 hs
  have htable := (isValid_iff.1 hvalid).1
  have hne : cs ≠ [] := by
    rintro rfl
    rw [isEmpty_iff.2 hcs.symm.eq_nil] at hempty
    cases hempty
  have hvalids : ∀ c ∈ cs, Identifier.isValid c = true := fun c hc ↦
    isValid_of_mem_columns hvalid (hcs.mem_iff.1 hc)
  exact ⟨(Listing.read_insertText htable hne hvalids).1,
    Listing.columnsOf_insertText htable hne hvalids⟩

/-- Records are put into tables by one text exactly if they have the same shape. -/
theorem insertListing_inj {a b : Record} {cs ds : List String} {s t : NamedStatement}
    (hcs : cs.Perm a.columns) (hds : ds.Perm b.columns)
    (hs : a.insertListing (byteSorted cs) = .ok s) (ht : b.insertListing (byteSorted ds) = .ok t) :
    s.sql = t.sql ↔ a.sameShape b = true := by
  rw [byteSorted_of_perm hcs] at hs
  rw [byteSorted_of_perm hds] at ht
  rw [sameShape_iff]
  constructor
  · intro h
    obtain ⟨htable, hcolumns⟩ := read_insertListing (.refl _) hs
    obtain ⟨htable', hcolumns'⟩ := read_insertListing (.refl _) ht
    rw [h] at htable hcolumns
    exact ⟨htable.symm.trans htable', hcolumns.symm.trans hcolumns'⟩
  · rintro ⟨htable, hcolumns⟩
    obtain ⟨-, -, -, rfl⟩ := insertListing_eq_ok_iff.1 hs
    obtain ⟨-, -, -, rfl⟩ := insertListing_eq_ok_iff.1 ht
    rw [htable, hcolumns]

theorem declaredFields_nodup (r : Record) : (r.declaredFields.map Prod.fst).Nodup :=
  (List.pairwise_map.2 r.declaredFields_ascending).imp String.ne_of_lt

/-- Columns are declared for the fields that are not null. -/
theorem mem_declaredNames_iff {c : String} :
    c ∈ r.declaredFields.map Prod.fst ↔ ∃ k, r.HasColumn c k := by
  rw [List.mem_map]
  constructor
  · rintro ⟨f, hf, rfl⟩
    exact ⟨f.2, mem_declaredFields_iff.1 hf⟩
  · rintro ⟨k, h⟩
    exact ⟨(c, k), mem_declaredFields_iff.2 h, rfl⟩

/-- **A statement shows the shape, and nothing else.**  In one dialect two records have the same
text to make their tables exactly if the tables have the same name and the same fields of the
same kinds are not null.  That text has the generated columns and then these fields, each once
and in ascending order of the bytes of its name, and it comes out the same in whatever order the
record is filled with its fields or they are gone through.  The texts that put two records into
their tables, the columns in the order of their bytes, are the same exactly if the records have the
same shape. -/
theorem text_iff_shape (a b : Record) :
    (∀ tag s t, a.create tag = .ok s → b.create tag = .ok t →
      (s = t ↔ a.table = b.table ∧ ∀ c k, a.HasColumn c k ↔ b.HasColumn c k)) ∧
    (∀ tag s, a.create tag = .ok s → ∃ names,
      Listing.columnsOf s = "rowid" :: "created" :: names ∧
      (names.Pairwise fun c c' ↦ Utf8.encode c < Utf8.encode c') ∧
      (∀ c ∈ names, ∃ k, a.HasColumn c k) ∧ ∀ c k, a.HasColumn c k → names.count c = 1) ∧
    (∀ tag fields, fields.Perm a.fields.entries →
      ofList a.table fields = a ∧ createThrough tag a.table fields = a.create tag) ∧
    ∀ cs ds s t, cs.Perm a.columns → ds.Perm b.columns →
      a.insertListing (byteSorted cs) = .ok s → b.insertListing (byteSorted ds) = .ok t →
        (s.sql = t.sql ↔ a.sameShape b = true) := by
  refine ⟨?_, ?_, fun tag _ h ↦ ⟨ofList_of_perm h, createThrough_of_perm h tag⟩,
    fun _ _ _ _ ↦ insertListing_inj⟩
  · intro tag s t hs ht
    obtain ⟨d, hd, hs⟩ := create_eq_ok_iff.1 hs
    obtain ⟨d', hd', ht⟩ := create_eq_ok_iff.1 ht
    obtain rfl : d = d' := Except.ok.inj (hd.symm.trans hd')
    rw [createIn_inj hs ht, declaredFields_eq_iff]
  · intro tag s hs
    obtain ⟨d, -, hs⟩ := create_eq_ok_iff.1 hs
    refine ⟨_, columnsOf_createIn hs, ?_, fun c hc ↦ mem_declaredNames_iff.1 hc, ?_⟩
    · exact List.pairwise_map.2
        (a.declaredFields_ascending.imp Text.Utf8.encode_lt_encode_iff.2)
    · intro c k h
      exact List.count_eq_one_of_mem a.declaredFields_nodup (mem_declaredNames_iff.2 ⟨k, h⟩)

/-- The fields of `reading` without the null, and with other values. -/
def rereading : Record := ⟨"t", ⟨[("a", .int 2), ("ab", .string "")], by decide⟩⟩

/-- One text makes the tables of both records, in whatever order their fields are gone through,
but the texts that put them there are different. -/
theorem text_iff_shape_rereading :
    ∃ made names s t,
      reading.create "postgres" = .ok made ∧ rereading.create "postgres" = .ok made ∧
      Listing.columnsOf made = "rowid" :: "created" :: names ∧ names.count "ab" = 1 ∧
      createThrough "postgres" "t" [("ab", .string "x"), ("a", .int 1), ("a1", .null)]
        = .ok made ∧
      ["ab", "a", "a1"].Perm reading.columns ∧ ["ab", "a"].Perm rereading.columns ∧
      reading.insertListing (byteSorted ["ab", "a", "a1"]) = .ok s ∧
      rereading.insertListing (byteSorted ["ab", "a"]) = .ok t ∧ s.sql ≠ t.sql := by
  obtain ⟨made, hmade⟩ := exists_create (r := reading) (by decide) (by decide) .postgres
  obtain ⟨made', hmade'⟩ := exists_create (r := rereading) (by decide) (by decide) .postgres
  obtain ⟨s, hs⟩ := exists_insertListing (r := reading) (by decide) (by decide) (by decide)
    (byteSorted ["ab", "a", "a1"])
  obtain ⟨t, ht⟩ := exists_insertListing (r := rereading) (by decide) (by decide) (by decide)
    (byteSorted ["ab", "a"])
  have hfields : reading.declaredFields = rereading.declaredFields := by decide
  have hab : reading.HasColumn "ab" .string := ⟨.string "x", by decide⟩
  have hperm : ["ab", "a", "a1"].Perm reading.columns := by decide
  have hperm' : ["ab", "a"].Perm rereading.columns := by decide
  have hdiffer : reading.sameShape rereading = false := by decide
  obtain ⟨htext, hnames, hthrough, hshape⟩ := text_iff_shape reading rereading
  obtain rfl : made = made' :=
    (htext _ _ _ hmade hmade').2 ⟨rfl, declaredFields_eq_iff.1 hfields⟩
  obtain ⟨names, hcolumns, -, -, hcount⟩ := hnames _ _ hmade
  refine ⟨made, names, s, t, hmade, hmade', hcolumns, hcount _ _ hab,
    (hthrough _ _ (by decide)).2.trans hmade, hperm, hperm', hs, ht, fun h ↦ ?_⟩
  rw [(hshape _ _ _ _ hperm hperm' hs ht).1 h] at hdiffer
  cases hdiffer

end Record

end RecordGateway
