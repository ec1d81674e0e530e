import RecordGateway.Proofs.NameMap
import RecordGateway.Proofs.Record.Reading
import RecordGateway.Record.Decode

/-!
# Records from written documents

However a document is written, decoding gives the record that it describes: the table that it
names, and for each key the literal of its last value.  A value that is no literal does no harm if
its key comes again; otherwise decoding fails with one such key and its value as it is written.
-/

namespace RecordGateway

open NameMap (lastValue?)

theorem Value.infer_eq_error {raw : String} {e : Unrecognised} (h : infer raw = .error e) :
    e = ⟨raw⟩ := by
  unfold infer at h
  split at h <;> cases h
  rfl

namespace Document

variable {d : Document}

/-- The literals of the last values of all keys were recognised. -/
def IsRecognised (d : Document) : Prop :=
  ∀ k raw, lastValue? d.members k = some raw → ∃ v, Value.infer raw = .ok v

/-- A record with the table of the document that has, for every key, the literal of its last
value, and no other field. -/
def Describes (d : Document) (r : Record) : Prop :=
  r.table = d.table ∧ r.columns.Nodup ∧ (∀ k, k ∈ r.columns ↔ k ∈ d.members.map Prod.fst) ∧
    ∀ k v, r.get? k = some v ↔ ∃ raw, lastValue? d.members k = some raw ∧ Value.infer raw = .ok v

/-- A field that decoding can fail with: a key whose last value is no literal. -/
def Refuses (d : Document) (k raw : String) : Prop :=
  lastValue? d.members k = some raw ∧ ∀ v, Value.infer raw ≠ .ok v

theorem mem_fields_iff {k raw : String} :
    d.fields.get? k = some raw ↔ lastValue? d.members k = some raw := by
  rw [fields, NameMap.get?_ofList]

theorem fieldValue_eq_ok_iff {k raw : String} {v : Value} :
    fieldValue k raw = .ok v ↔ Value.infer raw = .ok v := by
  rw [fieldValue]
  cases Value.infer raw <;> simp

theorem fieldValue_eq_error_iff {k raw : String} {e : DecodeError} :
    fieldValue k raw = .error e ↔ (∀ v, Value.infer raw ≠ .ok v) ∧ e = .field k ⟨raw⟩ := by
  rw [fieldValue]
  cases h : Value.infer raw with
  | ok v => simp
  | error cause =>
    rw [Value.infer_eq_error h]
    simp [eq_comm]

variable {l : d.fields.Listing}

theorem toRecord_eq_ok_iff {r : Record} : d.toRecord l = .ok r ↔
    r.table = d.table ∧ d.fields.traverse fieldValue l = .ok r.fields := by
  rw [toRecord]
  cases d.fields.traverse fieldValue l with
  | error e => simp
  | ok fields =>
    obtain ⟨table, fields'⟩ := r
    simp [eq_comm]

theorem toRecord_eq_error_iff {e : DecodeError} :
    d.toRecord l = .error e ↔ d.fields.traverse fieldValue l = .error e := by
  rw [toRecord]
  cases d.fields.traverse fieldValue l <;> simp

theorem toRecord_ok {r : Record} (h : d.toRecord l = .ok r) : d.Describes r := by
  obtain ⟨htable, hfields⟩ := toRecord_eq_ok_iff.1 h
  refine ⟨htable, r.fields.keys_nodup, fun k ↦ ?_, fun k v ↦ ?_⟩
  · rw [Record.columns, NameMap.keys_of_traverse hfields, NameMap.mem_keys_iff]
    simp only [mem_fields_iff, NameMap.lastValue?_isSome_iff]
  · rw [Record.get?, NameMap.get?_of_traverse hfields]
    simp only [mem_fields_iff, fieldValue_eq_ok_iff]

theorem toRecord_error {e : DecodeError} (h : d.toRecord l = .error e) :
    ∃ k raw, d.Refuses k raw ∧ e = .field k ⟨raw⟩ := by
  obtain ⟨k, raw, hraw, hvalue⟩ := NameMap.exists_of_traverse_error (toRecord_eq_error_iff.1 h)
  obtain ⟨hnone, rfl⟩ := fieldValue_eq_error_iff.1 hvalue
  exact ⟨k, raw, ⟨mem_fields_iff.1 hraw, hnone⟩, rfl⟩

/-- Of several fields that are refused any may be the one that decoding fails with. -/
theorem Refuses.exists_listing {k raw : String} (h : d.Refuses k raw) :
    ∃ l, d.toRecord l = .error (.field k ⟨raw⟩) := by
  obtain ⟨l, hl⟩ := NameMap.exists_traverse_error (mem_fields_iff.2 h.1)
    (fieldValue_eq_error_iff.2 ⟨h.2, rfl⟩)
  exact ⟨l, toRecord_eq_error_iff.2 hl⟩

/-- A record comes of a document in every order or in none. -/
theorem toRecord_eq_ok_of_listing {r : Record} (h : d.toRecord l = .ok r) (l' : d.fields.Listing) :
    d.toRecord l' = .ok r := by
  obtain ⟨htable, hfields⟩ := toRecord_eq_ok_iff.1 h
  exact toRecord_eq_ok_iff.2 ⟨htable, NameMap.traverse_eq_ok_of_listing hfields l'⟩

/-- An order for one document, with all others gone through in the order of their names. -/
def Visit.ofListing (l : d.fields.Listing) : Visit where
  listing d' := if h : d' = d then h ▸ l else .ascending d'.fields

@[simp] theorem Visit.listing_ofListing (l : d.fields.Listing) : (ofListing l).listing d = l :=
  dif_pos rfl

/-- No field of a document is refused that describes a record. -/
theorem Describes.isRecognised {r : Record} (h : d.Describes r) : d.IsRecognised := by
  obtain ⟨-, -, hcolumns, hget⟩ := h
  intro k raw hraw
  have hk := (hcolumns k).2 (NameMap.lastValue?_isSome_iff.1 ⟨raw, hraw⟩)
  obtain ⟨v, hv⟩ := NameMap.mem_keys_iff.1 hk
  obtain ⟨raw', hraw', hinfer⟩ := (hget k v).1 hv
  rw [hraw] at hraw'
  cases hraw'
  exact ⟨v, hinfer⟩

theorem Refuses.not_isRecognised {k raw : String} (h : d.Refuses k raw) : ¬d.IsRecognised := by
  intro hall
  obtain ⟨v, hv⟩ := hall k raw h.1
  exact h.2 v hv

end Document

namespace Record

variable {s : List UInt8} {d : Document} {visit : Document.Visit}

theorem decode_of_read (h : Document.read s = .ok d) (visit : Document.Visit) :
    decode s visit = d.toRecord (visit.listing d) := by
  rw [decode, h]

/-- A record is decoded whatever the order in which fields are gone through, or never. -/
theorem decode_eq_ok_of_visit {r : Record} (h : decode s visit = .ok r) (visit' : Document.Visit) :
    decode s visit' = .ok r := by
  cases hread : Document.read s with
  | error f =>
    rw [decode, hread] at h
    cases h
  | ok d =>
    rw [decode_of_read hread] at h ⊢
    exact Document.toRecord_eq_ok_of_listing h _

/-- **Decoding what was written.**  From bytes in which a document is written comes the record that
it describes if the last values of all keys are literals, and otherwise the fault of a field that
has none, with its value as it is written.  If there are several such fields, it depends on the
order in which they are gone through which one it is, and it may be any. -/
theorem decode_of_written (h : d.Written s) :
    (d.IsRecognised → ∃ r, (∀ visit, decode s visit = .ok r) ∧ d.Describes r) ∧
      (¬d.IsRecognised →
        (∀ visit, ∃ k raw, d.Refuses k raw ∧ decode s visit = .error (.field k ⟨raw⟩)) ∧
        ∀ k raw, d.Refuses k raw → ∃ visit, decode s visit = .error (.field k ⟨raw⟩)) := by
  have hdecode := decode_of_read (Document.read_of_written h)
  constructor
  · intro hall
    cases hr : d.toRecord (.ascending d.fields) with
    | ok r =>
      refine ⟨r, fun visit ↦ ?_, Document.toRecord_ok hr⟩
      rw [hdecode, Document.toRecord_eq_ok_of_listing hr]
    | error e =>
      obtain ⟨k, raw, hrefuses, -⟩ := Document.toRecord_error hr
      exact absurd hall hrefuses.not_isRecognised
  · intro hnot
    constructor
    · intro visit
      rw [hdecode]
      cases hr : d.toRecord (visit.listing d) with
      | ok r => exact absurd (Document.toRecord_ok hr).isRecognised hnot
      | error e =>
        obtain ⟨k, raw, hrefuses, rfl⟩ := Document.toRecord_error hr
        exact ⟨k, raw, hrefuses, rfl⟩
    · intro k raw hrefuses
      obtain ⟨l, hl⟩ := hrefuses.exists_listing
      refine ⟨.ofListing l, ?_⟩
      rw [hdecode, Document.Visit.listing_ofListing, hl]

/-- A document in which a value that is no literal is replaced behind it, under the same key in
another spelling. -/
def replacing : List UInt8 :=
  " \x7b\"data\":\x7b\"a\":[],\"\\u0061\":1\x7d,\"table\":\"t\"\x7d".toList.map Json.byte

theorem written_replacing :
    Document.Written ⟨"t", [("a", "[]"), ("a", "1")]⟩ replacing := by
  have hlist : Json.IsValue (Text.Utf8.encode "[]") :=
    Json.IsPart.empty (k := .list) Json.isBlanks_nil
  have hone : Json.IsValue (Text.Utf8.encode "1") := by
    have hwhole : Json.IsWhole [Json.byte '1'] :=
      .digits (by decide) (by decide) fun _ hb ↦ by cases hb
    exact .scalar (.unsigned (.mk hwhole .none .none))
  have hhex : Json.IsHex4 'a'.toNat (['0', '0', '6', '1'].map Json.byte) :=
    .mk (i := 0) (j := 0) (k := 6) (l := 1) (.inl (by decide)) (.inl (by decide))
      (.inl (by decide)) (.inl (by decide))
  have hspelled : Json.Spells ['a'] _ := .unit hhex .nil
  have hescaped : Json.IsKey "a" _ :=
    .mk (.mk hspelled) Json.isBlanks_nil Json.isBlanks_nil
  have hdata : Document.IsData [("a", "[]"), ("a", "1")] _ :=
    .mk (.filled Json.isBlanks_nil (.mk (Json.isKey_plain (by simp)) hlist)
      (.comma Json.isBlanks_nil Json.isBlanks_nil (.mk hescaped hone)
        (.close Json.isBlanks_nil)))
  have hobject : Document.IsDocument ⟨"t", [("a", "[]"), ("a", "1")]⟩ _ :=
    .object (.filled Json.isBlanks_nil (.data (Json.isKey_plain (by simp)) hdata)
      (.comma Json.isBlanks_nil Json.isBlanks_nil
        (.table (Json.isKey_plain (by simp)) (Json.isText_plain (by simp)))
        (.close Json.isBlanks_nil))) (by decide) (by decide)
  have hblank : Json.IsBlanks [Json.byte ' '] := by
    intro b hb
    rw [List.mem_singleton.1 hb]
    decide
  have hwritten := Document.Written.mk hblank hobject Json.isBlanks_nil
  refine Eq.mp (congrArg _ ?_) hwritten
  decide

theorem decode_replacing :
    Document.Written ⟨"t", [("a", "[]"), ("a", "1")]⟩ replacing ∧
      ∃ r, (∀ visit, decode replacing visit = .ok r) ∧ r.table = "t" ∧
        r.get? "a" = some (.int 1) := by
  refine ⟨written_replacing, ?_⟩
  obtain ⟨hok, -⟩ := decode_of_written written_replacing
  have hrecognised : Document.IsRecognised ⟨"t", [("a", "[]"), ("a", "1")]⟩ := by
    intro k raw hraw
    by_cases hk : k = "a"
    · subst hk
      cases hraw
      exact ⟨.int 1, by decide⟩
    · simp [lastValue?, Ne.symm hk] at hraw
  obtain ⟨r, hr, htable, -, -, hget⟩ := hok hrecognised
  exact ⟨r, hr, htable, (hget "a" (.int 1)).2 ⟨"1", rfl, by decide⟩⟩

end Record

end RecordGateway
