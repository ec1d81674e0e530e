import Mathlib.Data.List.Perm.Subperm
import Mathlib.Data.List.TakeWhile
import RecordGateway.Proofs.NameMap
import RecordGateway.Record.Basic
import RecordGateway.Sql.Statement

/-!
# Names and fields of records

Names of tables and columns are identifiers, and a record holds one value for each of its columns.
-/

namespace RecordGateway.Identifier

/-! ## The characters of identifiers

An identifier begins with a letter and consists of letters and digits, so it is read back whole
wherever the longest run of such characters is taken. -/

/-- Letters, at least one, and then at most one digit. -/
theorem exists_of_isValid {s : String} (h : isValid s = true) :
    ∃ letters tail, s.toList = letters ++ tail ∧ letters ≠ [] ∧ (∀ c ∈ letters, c.isAlpha = true) ∧
      (tail = [] ∨ ∃ d, d.isDigit = true ∧ tail = [d]) := by
  rw [isValid, Bool.and_eq_true] at h
  obtain ⟨hne, htail⟩ := h
  refine ⟨s.toList.takeWhile Char.isAlpha, s.toList.dropWhile Char.isAlpha,
    (List.takeWhile_append_dropWhile ..).symm, by simpa using hne,
    fun c hc ↦ List.mem_takeWhile_imp hc, ?_⟩
  split at htail
  next hd => exact .inl hd
  next d hd => exact .inr ⟨d, htail, hd⟩
  · cases htail

theorem isAlphanum_of_mem {s : String} (h : isValid s = true) {c : Char} (hc : c ∈ s.toList) :
    c.isAlphanum = true := by
  obtain ⟨letters, tail, hs, -, hl, ht⟩ := exists_of_isValid h
  rw [hs, List.mem_append] at hc
  rw [Char.isAlphanum, Bool.or_eq_true]
  rcases hc with hc | hc
  · exact .inl (hl c hc)
  · rcases ht with rfl | ⟨d, hd, rfl⟩
    · cases hc
    · rw [List.mem_singleton.1 hc]
      exact .inr hd

/-- The first character is a letter. -/
theorem exists_cons_of_isValid {s : String} (h : isValid s = true) :
    ∃ c cs, s.toList = c :: cs ∧ c.isAlpha = true := by
  obtain ⟨letters, tail, hs, hne, hl, -⟩ := exists_of_isValid h
  obtain ⟨c, cs, rfl⟩ := List.exists_cons_of_ne_nil hne
  exact ⟨c, cs ++ tail, hs, hl c (.head _)⟩

/-- A character that is neither letter nor digit stands in no identifier. -/
theorem not_mem_of_isValid {s : String} (h : isValid s = true) {c : Char}
    (hc : c.isAlphanum = false) : c ∉ s.toList := by
  intro hmem
  rw [isAlphanum_of_mem h hmem] at hc
  cases hc

/-- No spaces stand in front of an identifier. -/
theorem dropWhile_space_append {s : String} (h : isValid s = true) (rest : List Char) :
    (s.toList ++ rest).dropWhile (· == ' ') = s.toList ++ rest := by
  obtain ⟨c, cs, hcs, hc⟩ := exists_cons_of_isValid h
  have hne : c ≠ ' ' := by
    rintro rfl
    cases hc
  rw [hcs, List.cons_append, List.dropWhile_cons_of_neg (by simp [hne])]

end RecordGateway.Identifier

namespace RecordGateway.Record

/-! ## The fields of a record

A record is valid if its table and every name that it has a value for is an identifier, and every
value was recognised.  The check for generated columns passes exactly the records that have no
field of such a name. -/

theorem mem_columns_iff {r : Record} {c : String} : c ∈ r.columns ↔ ∃ v, r.get? c = some v :=
  NameMap.mem_keys_iff

theorem columns_nodup (r : Record) : r.columns.Nodup := r.fields.keys_nodup

theorem isValid_iff {r : Record} :
    r.isValid = true ↔ Identifier.isValid r.table = true ∧
      ∀ c v, r.get? c = some v → Identifier.isValid c = true ∧ v ≠ .invalid := by
  simp only [isValid, Bool.and_eq_true, List.all_eq_true, Value.isClassified_iff, get?,
    NameMap.get?_eq_some_iff, Prod.forall]

/-- Every field of a valid record has an identifier for its name. -/
theorem isValid_of_mem_columns {r : Record} (h : r.isValid = true) {c : String}
    (hc : c ∈ r.columns) : Identifier.isValid c = true := by
  obtain ⟨v, hv⟩ := mem_columns_iff.1 hc
  exact ((isValid_iff.1 h).2 c v hv).1

theorem isEmpty_iff {r : Record} : r.isEmpty = true ↔ r.columns = [] := by
  rw [isEmpty, beq_iff_eq, size, NameMap.size, columns, NameMap.keys, List.length_eq_zero_iff,
    List.map_eq_nil_iff]

theorem checkGenerated_eq_ok_iff {r : Record} :
    r.checkGenerated = .ok () ↔ ∀ c ∈ r.columns, isGenerated c = false := by
  simp only [checkGenerated]
  split
  next c hc =>
    constructor
    · intro h
      cases h
    · intro h
      have := h c (List.mem_of_find?_eq_some hc)
      rw [List.find?_some hc] at this
      cases this
  next hc => simpa using hc

/-- Records have the same shape if their tables and the names of their fields agree. -/
theorem sameShape_iff {a b : Record} :
    a.sameShape b = true ↔ a.table = b.table ∧ a.columns = b.columns := by
  have hsize (r : Record) : r.size = r.columns.length := (List.length_map Prod.fst).symm
  have hcontains (c : String) : b.fields.contains c = true ↔ c ∈ b.columns := by
    rw [mem_columns_iff, NameMap.contains, Option.isSome_iff_exists]
    rfl
  simp only [sameShape, Bool.and_eq_true, beq_iff_eq, List.all_eq_true, hsize, hcontains]
  constructor
  · rintro ⟨⟨htable, hlength⟩, hsub⟩
    -- As many names, all of them names of `b`, are all the names of `b`.
    have hperm : a.columns.Perm b.columns :=
      (List.subperm_of_subset a.columns_nodup hsub).perm_of_length_le (Nat.le_of_eq hlength.symm)
    exact ⟨htable, NameMap.eq_of_ascending id a.fields.keys_ascending
      b.fields.keys_ascending fun _ ↦ hperm.mem_iff⟩
  · rintro ⟨htable, hcolumns⟩
    rw [hcolumns]
    exact ⟨⟨htable, rfl⟩, fun _ hc ↦ hc⟩

end RecordGateway.Record
