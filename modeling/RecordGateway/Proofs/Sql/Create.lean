import RecordGateway.Proofs.Record.Basic

/-!
# The statement that makes a table

It is made for exactly the valid records that have no field named like a generated column, and it
declares the two generated columns and, by name and type, each field that is not null.
-/

namespace RecordGateway

/-- The type of a column as it is declared, and no text for a kind that no column has. -/
def Dialect.typeText (d : Dialect) (k : Kind) : String :=
  match d.columnType k with
  | .ok t => t
  | .error _ => ""

theorem Dialect.columnType_eq_ok {d : Dialect} {k : Kind} (hnull : k ≠ .null)
    (hinvalid : k ≠ .invalid) : d.columnType k = .ok (d.typeText k) := by
  cases k with
  | null => exact absurd rfl hnull
  | invalid => exact absurd rfl hinvalid
  | _ => cases d <;> rfl

theorem Value.kind_eq_null_iff {v : Value} : v.kind = .null ↔ v = .null := by
  cases v <;> simp [kind]

namespace Record

variable {r : Record} {d : Dialect}

/-- The declaration of a column. -/
def declaration (d : Dialect) (c : String × Kind) : String := c.1 ++ " " ++ d.typeText c.2

theorem toList_declaration (d : Dialect) (c : String × Kind) :
    (declaration d c).toList = c.1.toList ++ ' ' :: (d.typeText c.2).toList := by
  simp [declaration]

theorem createText_eq (table : String) (ds : List String) :
    createText table ds
      = "CREATE TABLE IF NOT EXISTS \"" ++ table ++ "\" (" ++ String.intercalate ", " ds
        ++ ");" := rfl

/-- The fields that a table has columns for, with their kinds. -/
def declaredFields (r : Record) : List (String × Kind) :=
  (r.fields.entries.filter fun f ↦ f.2.kind != .null).map fun f ↦ (f.1, f.2.kind)

theorem tableColumns_eq (r : Record) : r.tableColumns = generatedColumns ++ r.declaredFields := rfl

theorem mem_declaredFields_iff {f : String × Kind} :
    f ∈ r.declaredFields ↔ ∃ v, r.get? f.1 = some v ∧ v ≠ .null ∧ v.kind = f.2 := by
  obtain ⟨name, kind⟩ := f
  simp only [declaredFields, List.mem_map, List.mem_filter, bne_iff_ne, ne_eq,
    Value.kind_eq_null_iff, get?, NameMap.get?_eq_some_iff]
  constructor
  · rintro ⟨⟨k, v⟩, ⟨hmem, hv⟩, heq⟩
    obtain ⟨rfl, rfl⟩ := Prod.mk.inj heq
    exact ⟨v, hmem, hv, rfl⟩
  · rintro ⟨v, hmem, hv, rfl⟩
    exact ⟨(name, v), ⟨hmem, hv⟩, rfl⟩

/-- A field that a table has a column for has a value of its own kind. -/
theorem kind_of_mem_declaredFields (hvalid : r.isValid = true) {f : String × Kind}
    (hf : f ∈ r.declaredFields) : f.2 ∈ [Kind.bool, .int, .float, .string] := by
  obtain ⟨v, hv, hnull, hkind⟩ := mem_declaredFields_iff.1 hf
  have hinvalid := ((isValid_iff.1 hvalid).2 _ v hv).2
  rw [← hkind]
  cases v with
  | null => exact absurd rfl hnull
  | invalid => exact absurd rfl hinvalid
  | _ => simp [Value.kind]

/-- Every column of a table has an identifier for its name and a kind that there is a type for. -/
theorem of_mem_tableColumns (hvalid : r.isValid = true) {c : String × Kind}
    (hc : c ∈ r.tableColumns) :
    Identifier.isValid c.1 = true ∧ c.2 ≠ .null ∧ c.2 ≠ .invalid := by
  rw [tableColumns_eq, List.mem_append] at hc
  rcases hc with hc | hc
  · revert c
    decide
  · obtain ⟨v, hv, -⟩ := mem_declaredFields_iff.1 hc
    have hkind := kind_of_mem_declaredFields hvalid hc
    refine ⟨((isValid_iff.1 hvalid).2 _ v hv).1, ?_, ?_⟩ <;> intro h <;> simp [h] at hkind

theorem declarations_eq_ok {cs : List (String × Kind)}
    (h : ∀ c ∈ cs, c.2 ≠ .null ∧ c.2 ≠ .invalid) :
    declarations d cs = .ok (cs.map (declaration d)) := by
  induction cs with
  | nil => rfl
  | cons c cs ih =>
    obtain ⟨hnull, hinvalid⟩ := h c (.head _)
    rw [declarations, Dialect.columnType_eq_ok hnull hinvalid, ih fun e he ↦ h e (.tail _ he)]
    rfl

/-- A statement is made of a record exactly if it is valid and no field of it is named like a
generated column. -/
theorem createIn_eq_ok_iff {sql : String} :
    r.createIn d = .ok sql ↔ r.isValid = true ∧ (∀ c ∈ r.columns, isGenerated c = false) ∧
      sql = createText r.table (r.tableColumns.map (declaration d)) := by
  unfold createIn
  cases hvalid : r.isValid with
  | false => simp
  | true =>
    have hkinds : ∀ c ∈ r.tableColumns, c.2 ≠ .null ∧ c.2 ≠ .invalid :=
      fun c hc ↦ (of_mem_tableColumns hvalid hc).2
    rw [← checkGenerated_eq_ok_iff, declarations_eq_ok hkinds]
    cases r.checkGenerated with
    | error e => simp
    | ok => simp [eq_comm]

end Record

end RecordGateway
