import RecordGateway.Proofs.Field.Types
import RecordGateway.Proofs.Json.Rendering
import RecordGateway.Proofs.Record.Accepting

/-!
# Records written back

A record without doubles is written back as a document: its names as JSON writes them, and the
literals of its values as they are.  Since the values of a decoded record come from JSON values, the
document can be read, and what is decoded from it is the record.
-/

namespace RecordGateway

open Json (IsBlanks IsKey IsText IsValue IsObject IsObjectTail byte isBlanks_nil)
open Text.Utf8 (encode encode_append)

namespace Document

variable {d : Document}

/-! ## Documents -/

/-- A member of `data`, without blanks. -/
def printMember (m : String × String) : String := Json.render m.1 ++ ":" ++ m.2

/-- A document, written as an object without blanks.  The values of its members stand as they
are. -/
def print (d : Document) : String :=
  "\x7b\"table\":" ++ Json.render d.table ++ ",\"data\":\x7b"
    ++ String.intercalate "," (d.members.map printMember) ++ "\x7d\x7d"

theorem isField_printMember {m : String × String} (hm : IsValue (encode m.2)) :
    IsField m (encode (printMember m)) := by
  have hkey := IsKey.mk (Json.isText_render m.1) isBlanks_nil isBlanks_nil
  rw [printMember, encode_append, encode_append]
  rw [List.append_nil] at hkey
  exact .mk hkey hm

/-- What the first of the members leaves of an object is the rest of them. -/
theorem exists_isObjectTail {m : String × String} {ms : List (String × String)}
    (h : ∀ a ∈ ms, IsValue (encode a.2)) :
    ∃ t, encode (String.intercalate "," ((m :: ms).map printMember)) ++ [byte '}']
        = encode (printMember m) ++ t ∧ IsObjectTail IsField ms t := by
  induction ms generalizing m with
  | nil => exact ⟨[byte '}'], rfl, .close isBlanks_nil⟩
  | cons a as ih =>
    obtain ⟨ha, has⟩ := List.forall_mem_cons.1 h
    -- what the first member leaves begins with the comma, so the induction is for any first member
    obtain ⟨t, ht, htail⟩ := ih has (m := a)
    have hrest : IsObjectTail IsField (a :: as)
        ([] ++ byte ',' :: [] ++ encode (printMember a) ++ t) :=
      .comma isBlanks_nil isBlanks_nil (isField_printMember ha) htail
    refine ⟨_, ?_, hrest⟩
    rw [List.map_cons, List.map_cons, String.intercalate_cons_cons, encode_append, encode_append,
      List.append_assoc, List.append_assoc, ← List.map_cons, ht]
    rfl

theorem isData_print {ms : List (String × String)} (h : ∀ m ∈ ms, IsValue (encode m.2)) :
    IsData ms
      (byte '{' :: encode (String.intercalate "," (ms.map printMember)) ++ [byte '}']) := by
  cases ms with
  | nil => exact .mk (.empty isBlanks_nil)
  | cons m ms =>
    obtain ⟨hm, hms⟩ := List.forall_mem_cons.1 h
    obtain ⟨t, ht, htail⟩ := exists_isObjectTail hms (m := m)
    have hobject : IsObject IsField (m :: ms) ([] ++ encode (printMember m) ++ t) :=
      .filled isBlanks_nil (isField_printMember hm) htail
    rw [List.cons_append, ht]
    exact .mk hobject

/-- A document is written as it is printed. -/
theorem written_print (h : ∀ m ∈ d.members, IsValue (encode m.2)) : d.Written (encode d.print) := by
  have htable : IsMember (.table d.table) _ :=
    .table (Json.isKey_plain (by simp)) (Json.isText_render d.table)
  have hdata : IsMember (.data d.members) _ :=
    .data (Json.isKey_plain (by simp)) (isData_print h)
  have hobject := IsDocument.object (.filled isBlanks_nil htable
    (.comma isBlanks_nil isBlanks_nil hdata (.close isBlanks_nil))) (Nat.le_refl 1) (Nat.le_refl 1)
  have hwritten : d.Written _ := .mk isBlanks_nil hobject isBlanks_nil
  have hfront : encode "\x7b\"table\":"
      = byte '{' :: byte '"' :: encode "table" ++ [byte '"', byte ':'] := rfl
  have hmid : encode ",\"data\":\x7b"
      = byte ',' :: byte '"' :: encode "data" ++ [byte '"', byte ':', byte '{'] := rfl
  have hend : encode "\x7d\x7d" = [byte '}', byte '}'] := rfl
  refine Eq.mp (congrArg _ ?_) hwritten
  simp only [print, encode_append, hfront, hmid, hend, List.append_assoc, List.nil_append,
    List.cons_append, List.append_nil]

theorem read_print (h : ∀ m ∈ d.members, IsValue (encode m.2)) : read (encode d.print) = .ok d :=
  read_of_written (written_print h)

/-! ## Members of documents that were read -/

theorem forall_of_isObject {α : Type} {Member : α → List UInt8 → Prop} {P : α → Prop}
    (hP : ∀ a s, Member a s → P a) {as : List α} {s : List UInt8} (h : IsObject Member as s) :
    ∀ a ∈ as, P a := by
  have htail {as : List α} {t : List UInt8} (ht : IsObjectTail Member as t) : ∀ a ∈ as, P a := by
    induction ht with
    | close => exact List.forall_mem_nil _
    | comma _ _ hm _ ih => exact List.forall_mem_cons.2 ⟨hP _ _ hm, ih⟩
  cases h with
  | empty => exact List.forall_mem_nil _
  | filled _ hm ht => exact List.forall_mem_cons.2 ⟨hP _ _ hm, htail ht⟩

theorem IsData.isValue {fields : List (String × String)} {s : List UInt8} (h : IsData fields s) :
    ∀ m ∈ fields, IsValue (encode m.2) := by
  obtain ⟨hs⟩ := h
  refine forall_of_isObject ?_ hs
  rintro _ _ ⟨-, hv⟩
  exact hv

theorem data_mem_of_datas {ms : List Member} {fields : List (String × String)}
    (h : fields ∈ datas ms) : Member.data fields ∈ ms := by
  induction ms with
  | nil => cases h
  | cons m ms ih =>
    cases m with
    | table t => exact .tail _ (ih h)
    | other k => exact .tail _ (ih h)
    | data fs =>
      rcases List.mem_cons.1 h with rfl | h
      · exact .head _
      · exact .tail _ (ih h)

/-- The members of a written document are values. -/
theorem Written.isValue {s : List UInt8} (h : d.Written s) :
    ∀ m ∈ d.members, IsValue (encode m.2) := by
  obtain ⟨-, hs, -⟩ := h
  cases hs with
  | @object ms s hs htables hdatas =>
    have hdata : ∀ m ∈ ms, ∀ fields, m = .data fields → ∀ f ∈ fields, IsValue (encode f.2) := by
      refine forall_of_isObject ?_ hs
      rintro m s hm fields rfl
      cases hm with
      | data _ hs => exact hs.isValue
    cases hhead : (datas ms).head? with
    | none => exact List.forall_mem_nil _
    | some fields => exact hdata _ (data_mem_of_datas (List.mem_of_mem_head? hhead)) _ rfl
  | none => exact List.forall_mem_nil _
  | table => exact List.forall_mem_nil _
  | both _ _ _ _ hs => exact hs.isValue

end Document

namespace Record

variable {r : Record} {s : List UInt8} {visit : Document.Visit} {es : List (String × Value)}

/-! ## Records -/

/-- The literals of fields, unless there is a field whose value has none. -/
def literals (es : List (String × Value)) : Except String (List (String × String)) :=
  NameMap.traverseEntries (fun name v ↦ v.literal?.elim (.error name) .ok) es

/-- A record with the given fields, written as a document. -/
def print (table : String) (es : List (String × Value)) : Except String String :=
  match literals es with
  | .error name => .error name
  | .ok ms => .ok (Document.print ⟨table, ms⟩)

theorem exists_document_of_decode (h : decode s visit = .ok r) :
    ∃ d : Document, d.Written s ∧ d.Describes r := by
  cases hread : Document.read s with
  | error f =>
    rw [decode_eq_json_iff.2 hread] at h
    cases h
  | ok d =>
    rw [decode_of_read hread] at h
    exact ⟨d, Document.read_eq_ok_iff.1 hread, Document.toRecord_ok h⟩

/-- The values of a decoded record come from values. -/
theorem exists_isValue_of_decode (h : decode s visit = .ok r) {k : String} {v : Value}
    (hv : r.get? k = some v) : ∃ raw, IsValue (encode raw) ∧ Value.infer raw = .ok v := by
  obtain ⟨d, hwritten, -, -, -, hget⟩ := exists_document_of_decode h
  obtain ⟨raw, hraw, hinfer⟩ := (hget k v).1 hv
  exact ⟨raw, hwritten.isValue _ (NameMap.mem_of_lastValue? hraw), hinfer⟩

theorem mem_literals {ms : List (String × String)} (h : literals es = .ok ms) {k w : String} :
    (k, w) ∈ ms ↔ ∃ v, (k, v) ∈ es ∧ v.literal? = some w := by
  rw [NameMap.mem_of_traverseEntries h]
  refine exists_congr fun v ↦ and_congr_right fun _ ↦ ?_
  cases v.literal? <;> simp

section Literals

variable {ms : List (String × String)} (hperm : es.Perm r.fields.entries) (h : literals es = .ok ms)
include hperm h

theorem lastValue?_literals {k w : String} : NameMap.lastValue? ms k = some w ↔
    ∃ v, r.get? k = some v ∧ v.literal? = some w := by
  have hnodup : (ms.map Prod.fst).Nodup := by
    rw [NameMap.map_fst_traverseEntries h]
    exact NameMap.nodup_of_perm hperm
  rw [NameMap.lastValue?_eq_lookup hnodup, NameMap.lookup_eq_some_iff hnodup, mem_literals h]
  simp only [hperm.mem_iff, get?, NameMap.get?_eq_some_iff]

theorem exists_literal_of_get? {k : String} {v : Value} (hv : r.get? k = some v) :
    ∃ w, v.literal? = some w := by
  have hkey : k ∈ ms.map Prod.fst := by
    rw [NameMap.map_fst_traverseEntries h]
    exact List.mem_map_of_mem (hperm.mem_iff.2 (NameMap.get?_eq_some_iff.1 hv))
  obtain ⟨w, hw⟩ := NameMap.lastValue?_isSome_iff.2 hkey
  obtain ⟨v', hv', hliteral⟩ := (lastValue?_literals hperm h).1 hw
  rw [hv] at hv'
  cases hv'
  exact ⟨w, hliteral⟩

/-- The literals of all fields describe the record that has the fields. -/
theorem toRecord_of_literals (l : (⟨r.table, ms⟩ : Document).fields.Listing) :
    (⟨r.table, ms⟩ : Document).toRecord l = .ok r := by
  cases hrecord : (⟨r.table, ms⟩ : Document).toRecord l with
  | error e =>
    obtain ⟨k, raw, ⟨hraw, hnone⟩, -⟩ := Document.toRecord_error hrecord
    obtain ⟨v, -, hliteral⟩ := (lastValue?_literals hperm h).1 hraw
    exact absurd (Value.infer_of_literal hliteral) (hnone v)
  | ok r' =>
    obtain ⟨htable, -, -, hget⟩ := Document.toRecord_ok hrecord
    -- a literal is read as the one value that it is the literal of
    have hfields : r'.fields = r.fields := by
      refine NameMap.ext_get? fun k v ↦ ?_
      rw [← get?, ← get?, hget]
      constructor
      · rintro ⟨raw, hraw, hinfer⟩
        obtain ⟨w, hw, hliteral⟩ := (lastValue?_literals hperm h).1 hraw
        rw [Value.infer_of_literal hliteral] at hinfer
        cases hinfer
        exact hw
      · intro hv
        obtain ⟨w, hliteral⟩ := exists_literal_of_get? hperm h hv
        exact ⟨w, (lastValue?_literals hperm h).2 ⟨v, hv, hliteral⟩, Value.infer_of_literal hliteral⟩
    obtain ⟨table, fields⟩ := r'
    cases htable
    cases hfields
    rfl

end Literals

/-- The fields of a decoded record without doubles have literals. -/
theorem exists_literals (h : decode s visit = .ok r)
    (hfloat : ∀ k v, r.get? k = some v → v.kind ≠ .float) (hperm : es.Perm r.fields.entries) :
    ∃ ms, literals es = .ok ms := by
  cases hliterals : literals es with
  | ok ms => exact ⟨ms, rfl⟩
  | error name =>
    obtain ⟨⟨k, v⟩, hmem, herror⟩ := NameMap.exists_of_traverseEntries_error hliterals
    have hv : r.get? k = some v := NameMap.get?_eq_some_iff.2 (hperm.mem_iff.1 hmem)
    obtain ⟨raw, -, hinfer⟩ := exists_isValue_of_decode h hv
    have hinvalid : v ≠ .invalid := by
      rintro rfl
      exact Value.infer_ne_invalid hinfer
    obtain ⟨w, hw⟩ := Value.exists_literal (hfloat k v hv) hinvalid
    rw [hw] at herror
    cases herror

/-- A decoded record without doubles is decoded from what it is printed as. -/
theorem exists_print (h : decode s visit = .ok r)
    (hfloat : ∀ k v, r.get? k = some v → v.kind ≠ .float) (hperm : es.Perm r.fields.entries) :
    ∃ text, print r.table es = .ok text ∧ ∀ visit, decode (encode text) visit = .ok r := by
  obtain ⟨ms, hms⟩ := exists_literals h hfloat hperm
  have hvalues : ∀ m ∈ ms, IsValue (encode m.2) := by
    rintro ⟨k, w⟩ hm
    obtain ⟨v, hv, hliteral⟩ := (mem_literals hms).1 hm
    obtain ⟨raw, hraw, hinfer⟩ :=
      exists_isValue_of_decode h (NameMap.get?_eq_some_iff.2 (hperm.mem_iff.1 hv))
    exact Value.isValue_literal hraw hinfer hliteral
  refine ⟨_, by rw [print, hms], fun visit ↦ ?_⟩
  rw [decode_of_read (Document.read_print hvalues), toRecord_of_literals hperm hms]

/-- **Values, read and written back.**  Every JSON value has a type.  The members of a document are
values, and each of them is a literal of the kind that belongs to its type, unless it is a list, an
object or a number that does not fit.  What stands in the texts of a decoded record may stand
between the quotes of a text, and a decoded record without doubles, written back with its fields in
any order, is decoded again. -/
theorem decode_rewritten :
    (∀ v, IsValue v ↔ ∃ t, Json.HasType t v) ∧
    (∀ s d, Document.read s = .ok d → ∀ m ∈ d.members, IsValue (encode m.2)) ∧
    (∀ t raw, Json.HasType t (encode raw) →
      ((∃ e, Value.infer raw = .error e) ↔ t.kind? = none ∨ Value.Overflows raw.toList) ∧
        ∀ v, Value.infer raw = .ok v → t.kind? = some v.kind) ∧
    ∀ s visit r, decode s visit = .ok r →
      (∀ k t, r.get? k = some (.string t) → Json.IsBody (encode t)) ∧
        ((∀ k v, r.get? k = some v → v.kind ≠ .float) → ∀ es, es.Perm r.fields.entries →
          ∃ text, print r.table es = .ok text ∧ ∀ visit, decode (encode text) visit = .ok r) := by
  refine ⟨fun v ↦ Json.isValue_iff_exists_hasType,
    fun s d h ↦ (Document.read_eq_ok_iff.1 h).isValue,
    fun t raw h ↦ ⟨Value.exists_error_iff_of_hasType h, fun v ↦ Value.kind_of_hasType h⟩,
    fun s visit r h ↦ ⟨fun k t ht ↦ ?_, fun hfloat es hperm ↦ exists_print h hfloat hperm⟩⟩
  obtain ⟨raw, hraw, hinfer⟩ := exists_isValue_of_decode h ht
  exact Value.isBody_of_infer hraw hinfer

/-- A document with a quote in a key and escapes in a text, and the least integer. -/
def escaped : List UInt8 :=
  ("\x7b\"data\":\x7b\"k\\u0022\":\"a\\\\\\\"b\",\"n\":-9223372036854775808\x7d"
    ++ ",\"table\":\"t\\n\"\x7d").toList.map byte

/-- The record of the document. -/
def escapedRecord : Record :=
  .ofList "t\n" [("k\"", .string "a\\\\\\\"b"), ("n", .int Int64.minValue)]

theorem decode_rewritten_escaped :
    (Json.HasType (.bracket .list) (encode "[]") ∧ ∃ e, Value.infer "[]" = .error e) ∧
    decode escaped = .ok escapedRecord ∧ (∀ k v, escapedRecord.get? k = some v → v.kind ≠ .float) ∧
    ∃ text, print escapedRecord.table escapedRecord.fields.entries = .ok text ∧
      ∀ visit, decode (encode text) visit = .ok escapedRecord := by
  have hlist : Json.HasType (.bracket .list) (encode "[]") :=
    .bracket (k := .list) (.empty isBlanks_nil)
  have hdecode : decode escaped = .ok escapedRecord := by decide +kernel
  have hfloat : ∀ k v, escapedRecord.get? k = some v → v.kind ≠ .float := by
    intro k v hv
    have hall : ∀ e ∈ escapedRecord.fields.entries, e.2.kind ≠ .float := by decide +kernel
    exact hall _ (NameMap.get?_eq_some_iff.1 hv)
  exact ⟨⟨hlist, ((decode_rewritten.2.2.1 _ _ hlist).1).2 (.inl rfl)⟩, hdecode, hfloat,
    (decode_rewritten.2.2.2 _ _ _ hdecode).2 hfloat _ (.refl _)⟩

end Record

end RecordGateway
