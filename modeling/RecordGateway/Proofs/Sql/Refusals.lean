import RecordGateway.Proofs.Sql.Shape

/-!
# Records that no statement is made of

Both statements are refused for the same reasons in the same order: the record is not valid, or it
has a field named like a generated column.  The dialect comes before these for the statement that
makes a table, and a record without fields between them for the one that puts values into it.
There are no other reasons; in particular every field of a valid record that is not null has a type.
-/

namespace RecordGateway

open Text

theorem Dialect.ofTag_eq_error_iff {tag : String} {e : SqlError} :
    ofTag tag = .error e ↔ (∀ d : Dialect, d.tag ≠ tag) ∧ e = .unsupportedDialect tag := by
  cases h : ofTag tag with
  | ok d =>
    obtain rfl := ofTag_eq_ok_iff.1 h
    constructor
    · intro he
      cases he
    · intro he
      exact absurd rfl (he.1 d)
  | error e' =>
    have hne (d : Dialect) : d.tag ≠ tag := by
      rintro rfl
      rw [ofTag_tag] at h
      cases h
    have he' : e' = .unsupportedDialect tag := by
      unfold ofTag at h
      split at h
      · cases h
      split at h
      · cases h
      · cases h
        rfl
    rw [Except.error.injEq, he']
    exact ⟨fun he ↦ ⟨hne, he.symm⟩, fun he ↦ he.2.symm⟩

namespace Record

variable {r : Record} {e : SqlError}

/-- A name that no field may have: that of a generated column, in any case of letters. -/
def IsReserved (name : String) : Prop :=
  ∃ g ∈ ["rowid", "created"], Text.sameIgnoringCase g name = true

theorem isReserved_iff {name : String} : IsReserved name ↔ isGenerated name = true := by
  simp [IsReserved, isGenerated, generatedColumns]

instance (name : String) : Decidable (IsReserved name) := decidable_of_iff _ isReserved_iff.symm

/-- The first in the order of bytes among the fields with names that no field may have. -/
structure LeastReserved (r : Record) (name : String) : Prop where
  mem : name ∈ r.columns
  reserved : IsReserved name
  least : ∀ c ∈ r.columns, IsReserved c → Utf8.encode name ≤ Utf8.encode c

/-- What both statements find fault with. -/
inductive Faulty (r : Record) : SqlError → Prop
  | invalid (h : r.isValid = false) : r.Faulty .invalidRecord
  | reserved {name} (hvalid : r.isValid = true) (h : r.LeastReserved name) :
      r.Faulty (.reservedColumn name)

theorem faulty_iff_of_valid (h : r.isValid = true) :
    r.Faulty e ↔ ∃ name, r.LeastReserved name ∧ e = .reservedColumn name := by
  constructor
  · rintro (hinvalid | ⟨-, hname⟩)
    · rw [h] at hinvalid
      cases hinvalid
    · exact ⟨_, hname, rfl⟩
  · rintro ⟨name, hname, rfl⟩
    exact .reserved h hname

theorem faulty_iff_of_invalid (h : r.isValid = false) : r.Faulty e ↔ e = .invalidRecord := by
  constructor
  · rintro (- | ⟨hvalid, -⟩)
    · rfl
    · rw [h] at hvalid
      cases hvalid
  · rintro rfl
    exact .invalid h

/-- Names ascend, so the first that is found is the least. -/
theorem find?_eq_some_iff_least {names : List String} (h : names.Pairwise (· < ·))
    {p : String → Bool} {name : String} :
    names.find? p = some name ↔ name ∈ names ∧ p name = true ∧
      ∀ c ∈ names, p c = true → ¬c < name := by
  rw [List.find?_eq_some_iff_append]
  constructor
  · rintro ⟨hname, before, after, rfl, hbefore⟩
    obtain ⟨-, hafter, -⟩ := List.pairwise_append.1 h
    refine ⟨List.mem_append_right _ (.head _), hname, fun c hc hp ↦ ?_⟩
    rcases List.mem_append.1 hc with hc | hc
    · have hnot := hbefore c hc
      rw [hp] at hnot
      cases hnot
    · rcases List.mem_cons.1 hc with rfl | hc
      · exact String.lt_irrefl c
      · exact String.lt_asymm ((List.pairwise_cons.1 hafter).1 c hc)
  · rintro ⟨hmem, hname, hleast⟩
    obtain ⟨before, after, rfl⟩ := List.append_of_mem hmem
    obtain ⟨-, -, hless⟩ := List.pairwise_append.1 h
    refine ⟨hname, before, after, rfl, fun c hc ↦ ?_⟩
    rw [Bool.not_eq_true', Bool.eq_false_iff]
    intro hp
    exact hleast c (List.mem_append_left _ hc) hp (hless c hc name (.head _))

theorem leastReserved_iff {name : String} :
    r.LeastReserved name ↔ r.columns.find? isGenerated = some name := by
  have hle (c : String) : Utf8.encode name ≤ Utf8.encode c ↔ ¬c < name := by
    rw [← Text.Utf8.encode_lt_encode_iff, List.not_lt]
  rw [columns, find?_eq_some_iff_least r.fields.keys_ascending]
  constructor
  · rintro ⟨hmem, hname, hleast⟩
    refine ⟨hmem, isReserved_iff.1 hname, fun c hc hp ↦ ?_⟩
    exact (hle c).1 (hleast c hc (isReserved_iff.2 hp))
  · rintro ⟨hmem, hname, hleast⟩
    refine ⟨hmem, isReserved_iff.2 hname, fun c hc hp ↦ ?_⟩
    exact (hle c).2 (hleast c hc (isReserved_iff.1 hp))

theorem checkGenerated_eq_error_iff :
    r.checkGenerated = .error e ↔ ∃ name, r.LeastReserved name ∧ e = .reservedColumn name := by
  simp only [leastReserved_iff, checkGenerated]
  cases r.columns.find? isGenerated <;> simp [eq_comm]

theorem checkGenerated_eq_error_iff_faulty (h : r.isValid = true) :
    r.checkGenerated = .error e ↔ r.Faulty e := by
  rw [checkGenerated_eq_error_iff, faulty_iff_of_valid h]

theorem checkGenerated_eq_ok_iff_reserved :
    r.checkGenerated = .ok () ↔ ∀ c ∈ r.columns, ¬IsReserved c := by
  rw [checkGenerated_eq_ok_iff]
  simp only [isReserved_iff, Bool.not_eq_true]

/-! ## The two statements -/

/-- In a known dialect nothing but the record can be at fault. -/
theorem createIn_eq_error_iff {d : Dialect} : r.createIn d = .error e ↔ r.Faulty e := by
  unfold createIn
  cases hvalid : r.isValid with
  | false =>
    rw [faulty_iff_of_invalid hvalid]
    simp [eq_comm (a := e)]
  | true =>
    rw [← checkGenerated_eq_error_iff_faulty hvalid,
      declarations_eq_ok fun c hc ↦ (of_mem_tableColumns hvalid hc).2]
    cases r.checkGenerated <;> simp

theorem create_eq_error_iff {tag : String} :
    r.create tag = .error e ↔
      (∀ d : Dialect, d.tag ≠ tag) ∧ e = .unsupportedDialect tag ∨
        (∃ d : Dialect, d.tag = tag) ∧ r.Faulty e := by
  rw [← Dialect.ofTag_eq_error_iff, create]
  cases h : Dialect.ofTag tag with
  | error e' =>
    obtain ⟨hne, -⟩ := Dialect.ofTag_eq_error_iff.1 h
    simp [hne]
  | ok d =>
    obtain rfl := Dialect.ofTag_eq_ok_iff.1 h
    simp [createIn_eq_error_iff]

/-- A statement that makes a table is made of every other record. -/
theorem exists_create_iff {tag : String} :
    (∃ sql, r.create tag = .ok sql) ↔
      (∃ d : Dialect, d.tag = tag) ∧ r.isValid = true ∧ ∀ c ∈ r.columns, ¬IsReserved c := by
  simp only [create_eq_ok_iff, Dialect.ofTag_eq_ok_iff, createIn_eq_ok_iff,
    ← checkGenerated_eq_ok_iff, checkGenerated_eq_ok_iff_reserved]
  constructor
  · rintro ⟨_, d, rfl, hvalid, hnames, -⟩
    exact ⟨⟨d, rfl⟩, hvalid, hnames⟩
  · rintro ⟨⟨d, rfl⟩, hvalid, hnames⟩
    exact ⟨_, d, rfl, hvalid, hnames, rfl⟩

/-- However its columns are listed, a record is at fault as for the other statement, and one without
fields besides. -/
theorem insertListing_eq_error_iff {cs : List String} :
    r.insertListing cs = .error e ↔
      r.Faulty e ∨ (r.isValid = true ∧ r.columns = []) ∧ e = .emptyRecord := by
  unfold insertListing
  cases hvalid : r.isValid with
  | false =>
    rw [faulty_iff_of_invalid hvalid]
    simp [eq_comm (a := e)]
  | true =>
    rw [← checkGenerated_eq_error_iff_faulty hvalid, ← isEmpty_iff]
    cases hempty : r.isEmpty with
    | false => cases r.checkGenerated <;> simp
    | true =>
      have hnone : r.checkGenerated = .ok () := by
        rw [checkGenerated, isEmpty_iff.1 hempty]
        rfl
      rw [hnone]
      simp [eq_comm (a := e)]

theorem exists_insertListing_iff {cs : List String} :
    (∃ s, r.insertListing cs = .ok s) ↔
      r.isValid = true ∧ r.columns ≠ [] ∧ ∀ c ∈ r.columns, ¬IsReserved c := by
  simp only [insertListing_eq_ok_iff, ← checkGenerated_eq_ok_iff, checkGenerated_eq_ok_iff_reserved,
    Ne, ← isEmpty_iff, Bool.not_eq_true]
  constructor
  · rintro ⟨_, hvalid, hne, hnames, -⟩
    exact ⟨hvalid, hne, hnames⟩
  · rintro ⟨hvalid, hne, hnames⟩
    exact ⟨_, hvalid, hne, hnames, rfl⟩

/-- However its columns are listed, the values of a statement are numbered in every dialect. -/
theorem exists_rebind {cs : List String} {s : NamedStatement} (hcs : cs.Perm r.columns)
    (h : r.insertListing cs = .ok s) (d : Dialect) : ∃ n, s.rebind d = .ok n := by
  obtain ⟨hvalid, -, -, rfl⟩ := insertListing_eq_ok_iff.1 h
  exact ⟨_, rebind_insertText (isValid_iff.1 hvalid).1 (lists_of_perm hvalid hcs)⟩

end Record

end RecordGateway
