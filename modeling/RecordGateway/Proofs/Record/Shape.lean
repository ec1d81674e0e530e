import Mathlib.Data.List.Dedup
import RecordGateway.Proofs.Record.Basic

/-!
# The shape of a record

Records have the same shape if their tables and the names of their fields agree, in whatever order
the names are gone through.  The names are those that a record was made of, each once, whatever
their order was and how often they were given; of the values of one name the last is kept.
-/

namespace RecordGateway.Record

variable {a b : Record} {table : String} {fs gs : List (String × Value)} {name : String}

/-! ## What a list of fields comes down to -/

/-- The names in a list of fields, each of them once and with its last value. -/
def lastFields (fs : List (String × Value)) : List (String × Value) :=
  (fs.map Prod.fst).dedup.filterMap fun name ↦ (NameMap.lastValue? fs name).map (name, ·)

theorem map_fst_lastFields (fs : List (String × Value)) :
    (lastFields fs).map Prod.fst = (fs.map Prod.fst).dedup := by
  have hname : ∀ name ∈ (fs.map Prod.fst).dedup,
      ((NameMap.lastValue? fs name).map (name, ·)).map Prod.fst = some name := by
    intro name hname
    obtain ⟨v, hv⟩ := NameMap.lastValue?_isSome_iff.2 (List.mem_dedup.1 hname)
    rw [hv]
    rfl
  rw [lastFields, List.map_filterMap, List.filterMap_congr hname, List.filterMap_some]

theorem mem_lastFields_iff {v : Value} :
    (name, v) ∈ lastFields fs ↔ NameMap.lastValue? fs name = some v := by
  simp only [lastFields, List.mem_filterMap, List.mem_dedup, Option.map_eq_some_iff]
  constructor
  · rintro ⟨_, -, _, hv, rfl, rfl⟩
    exact hv
  · intro hv
    exact ⟨name, NameMap.lastValue?_isSome_iff.1 ⟨v, hv⟩, v, hv, rfl⟩

/-- A record has the names of its list once each, with their last values. -/
theorem entries_ofList_perm (table : String) (fs : List (String × Value)) :
    (ofList table fs).fields.entries.Perm (lastFields fs) := by
  have hentries : (ofList table fs).fields.entries.Nodup :=
    List.Nodup.of_map Prod.fst (ofList table fs).columns_nodup
  have hfields : (lastFields fs).Nodup := by
    refine List.Nodup.of_map Prod.fst ?_
    rw [map_fst_lastFields]
    exact List.nodup_dedup _
  rw [List.perm_ext_iff_of_nodup hentries hfields]
  rintro ⟨name, v⟩
  rw [← NameMap.get?_eq_some_iff, ofList, NameMap.get?_ofList, mem_lastFields_iff]

theorem columns_ofList_perm (table : String) (fs : List (String × Value)) :
    (ofList table fs).columns.Perm (fs.map Prod.fst).dedup := by
  have h := (entries_ofList_perm table fs).map Prod.fst
  rwa [map_fst_lastFields] at h

theorem size_ofList (table : String) (fs : List (String × Value)) :
    (ofList table fs).size = (fs.map Prod.fst).dedup.length := by
  rw [← (columns_ofList_perm table fs).length_eq, columns, NameMap.keys, List.length_map]
  rfl

theorem mem_columns_ofList_iff : name ∈ (ofList table fs).columns ↔ name ∈ fs.map Prod.fst := by
  rw [(columns_ofList_perm table fs).mem_iff, List.mem_dedup]

/-! ## Comparing shapes -/

/-- Records of the same table have the same shape if they have the same names. -/
theorem sameShape_iff_mem_columns :
    a.sameShape b = true ↔ a.table = b.table ∧ ∀ name, name ∈ a.columns ↔ name ∈ b.columns := by
  rw [sameShape_iff]
  refine and_congr_right fun _ ↦ ⟨fun h _ ↦ h ▸ Iff.rfl, fun h ↦ ?_⟩
  exact NameMap.eq_of_ascending id a.fields.keys_ascending b.fields.keys_ascending h

theorem sameShape_ofList_iff {table' : String} :
    (ofList table fs).sameShape (ofList table' gs) = true ↔
      table = table' ∧ ∀ name, name ∈ fs.map Prod.fst ↔ name ∈ gs.map Prod.fst := by
  simp only [sameShape_iff_mem_columns, mem_columns_ofList_iff]
  rfl

theorem equivalence_sameShape : Equivalence fun a b : Record ↦ a.sameShape b = true where
  refl _ := sameShape_iff.2 ⟨rfl, rfl⟩
  symm h := sameShape_iff.2 ((sameShape_iff.1 h).imp Eq.symm Eq.symm)
  trans h h' := by
    obtain ⟨htable, hcolumns⟩ := sameShape_iff.1 h
    obtain ⟨htable', hcolumns'⟩ := sameShape_iff.1 h'
    exact sameShape_iff.2 ⟨htable.trans htable', hcolumns.trans hcolumns'⟩

/-- Records of the same shape have the same shape as the same records. -/
theorem sameShape_congr (h : a.sameShape b = true) (c : Record) :
    a.sameShape c = b.sameShape c ∧ c.sameShape a = c.sameShape b := by
  obtain ⟨-, hsymm, htrans⟩ := equivalence_sameShape
  refine ⟨Bool.eq_iff_iff.2 ⟨htrans (hsymm h), htrans h⟩, Bool.eq_iff_iff.2 ⟨?_, ?_⟩⟩
  · exact fun hc ↦ htrans hc h
  · exact fun hc ↦ htrans hc (hsymm h)

/-- The names of a record can be looked up in any order. -/
theorem sameShape_of_perm {names : List String} (h : names.Perm a.columns) (b : Record) :
    a.sameShape b = (a.table == b.table && a.size == b.size && names.all b.fields.contains) := by
  rw [sameShape, h.all_eq]

/-- **The shape of a record.**  Records have the same shape exactly if they are of the same table
and have values for the same names, whatever the values; the names of the first may be looked up in
the second in any order.  This is an equivalence.  Of a list of fields it only counts which names
are in it, not their order and how often they are there: every name is kept once, with its last
value. -/
theorem sameShape_iff_names :
    (∀ a b : Record, (a.sameShape b = true ↔
        a.table = b.table ∧ ∀ name, (∃ v, a.get? name = some v) ↔ ∃ v, b.get? name = some v) ∧
      ∀ names : List String, names.Perm a.columns → a.sameShape b
        = (a.table == b.table && a.size == b.size && names.all b.fields.contains)) ∧
    (Equivalence fun a b : Record ↦ a.sameShape b = true) ∧
    (∀ table table' fs gs, (ofList table fs).sameShape (ofList table' gs) = true ↔
      table = table' ∧ ∀ name, name ∈ fs.map Prod.fst ↔ name ∈ gs.map Prod.fst) ∧
    (∀ table fs gs, (∀ name, name ∈ fs.map Prod.fst ↔ name ∈ gs.map Prod.fst) → ∀ c : Record,
      (ofList table fs).sameShape c = (ofList table gs).sameShape c ∧
        c.sameShape (ofList table fs) = c.sameShape (ofList table gs)) ∧
    ∀ table fs,
      (∀ name, (ofList table fs).get? name
        = ((fs.filter fun f ↦ f.1 == name).getLast?).map Prod.snd) ∧
      (ofList table fs).fields.entries.Perm (lastFields fs) ∧
      (ofList table fs).columns.Perm (fs.map Prod.fst).dedup ∧
      (ofList table fs).size = (fs.map Prod.fst).dedup.length := by
  refine ⟨fun a b ↦ ⟨?_, fun names h ↦ sameShape_of_perm h b⟩, equivalence_sameShape,
    fun _ _ _ _ ↦ sameShape_ofList_iff, ?_, ?_⟩
  · simp only [sameShape_iff_mem_columns, mem_columns_iff]
  · intro table fs gs h
    exact sameShape_congr (sameShape_ofList_iff.2 ⟨rfl, h⟩)
  · intro table fs
    exact ⟨NameMap.get?_ofList fs, entries_ofList_perm table fs, columns_ofList_perm table fs,
      size_ofList table fs⟩

/-- A name given twice, and names in the other order. -/
theorem sameShape_iff_names_twice :
    (∀ name, name ∈ [("x", Value.null), ("y", .int 1), ("x", .bool true)].map Prod.fst ↔
        name ∈ [("y", Value.string "1"), ("x", .int 2)].map Prod.fst) ∧
      (ofList "t" [("x", .null), ("y", .int 1), ("x", .bool true)]).sameShape
        (ofList "t" [("y", .string "1"), ("x", .int 2)]) = true ∧
      (ofList "t" [("x", .null), ("y", .int 1), ("x", .bool true)]).get? "x" = some (.bool true) ∧
      (ofList "t" [("x", .null), ("y", .int 1), ("x", .bool true)]).size = 2 := by
  obtain ⟨-, -, hlists, -, hkept⟩ := sameShape_iff_names
  have hnames (name : String) :
      name ∈ [("x", Value.null), ("y", .int 1), ("x", .bool true)].map Prod.fst ↔
        name ∈ [("y", Value.string "1"), ("x", .int 2)].map Prod.fst := by
    simp only [List.map_cons, List.map_nil, List.mem_cons, List.not_mem_nil, or_false]
    tauto
  obtain ⟨hlast, -, -, hsize⟩ := hkept "t" [("x", .null), ("y", .int 1), ("x", .bool true)]
  exact ⟨hnames, (hlists _ _ _ _).2 ⟨rfl, hnames⟩, (hlast "x").trans rfl, hsize.trans rfl⟩

end RecordGateway.Record
