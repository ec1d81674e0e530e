import RecordGateway.Proofs.Field.Literal

/-!
# The types of JSON values and the kinds of fields

Every JSON value is null, a boolean, a number, a text, a list or an object, and those that are no
list and no object are literals of the kind that belongs to their type, unless they are numbers
that do not fit.
-/

namespace RecordGateway

namespace Json

/-! ## Types -/

/-- The types of values.  A number is whole if it has no fraction and no exponent. -/
inductive ValueType
  | null
  | bool
  | number (whole : Bool)
  | text
  | bracket (k : Bracket)

/-- The kind of fields that holds the values of a type. -/
def ValueType.kind? : ValueType → Option Kind
  | null => some .null
  | bool => some .bool
  | number whole => some (if whole then .int else .float)
  | text => some .string
  | bracket _ => none

/-- The values of a type. -/
inductive HasType : ValueType → List UInt8 → Prop
  | null : HasType .null [byte 'n', byte 'u', byte 'l', byte 'l']
  | true : HasType .bool [byte 't', byte 'r', byte 'u', byte 'e']
  | false : HasType .bool [byte 'f', byte 'a', byte 'l', byte 's', byte 'e']
  | integer {s} (hs : IsInteger s) : HasType (.number Bool.true) s
  | decimal {s} (hs : IsNumber s) (hpart : ¬IsInteger s) : HasType (.number Bool.false) s
  | text {s} (hs : IsBody s) : HasType .text (byte '"' :: s ++ [byte '"'])
  | bracket {k s} (hs : IsValue (Bracket.opening k :: s)) :
      HasType (.bracket k) (Bracket.opening k :: s)

variable {s : List UInt8}

theorem IsInteger.isNumber (h : IsInteger s) : IsNumber s := by
  have hunsigned {s : List UInt8} (hs : IsWhole s) : IsUnsigned s := by
    have h := IsUnsigned.mk hs .none .none
    rwa [List.append_nil, List.append_nil] at h
  cases h with
  | unsigned hs => exact .unsigned (hunsigned hs)
  | negative hs => exact .negative (hunsigned hs)

theorem IsNumber.isValue (h : IsNumber s) : IsValue s := by
  cases h with
  | unsigned hs => exact .scalar (.unsigned hs)
  | negative hs => exact .scalar (.negative hs)

theorem IsNumber.exists_hasType (h : IsNumber s) : ∃ t, HasType t s := by
  by_cases hinteger : IsInteger s
  · exact ⟨_, .integer hinteger⟩
  · exact ⟨_, .decimal h hinteger⟩

theorem IsScalar.exists_hasType (h : IsScalar s) : ∃ t, HasType t s := by
  cases h with
  | null => exact ⟨_, .null⟩
  | true => exact ⟨_, .true⟩
  | false => exact ⟨_, .false⟩
  | unsigned hs => exact IsNumber.exists_hasType (.unsigned hs)
  | negative hs => exact IsNumber.exists_hasType (.negative hs)
  | text hs => exact ⟨_, .text hs⟩

/-- Every value has a type, and nothing else has one. -/
theorem isValue_iff_exists_hasType : IsValue s ↔ ∃ t, HasType t s := by
  constructor
  · intro h
    have hvalue := h
    unfold IsValue at h
    generalize hpart : Part.value = p at h
    cases h with
    | scalar hs => exact hs.exists_hasType
    | empty hw => exact ⟨_, .bracket hvalue⟩
    | filled hw hl hv ht => exact ⟨_, .bracket hvalue⟩
    | close => cases hpart
    | comma => cases hpart
  · rintro ⟨t, h⟩
    cases h with
    | null => exact .scalar .null
    | true => exact .scalar .true
    | false => exact .scalar .false
    | integer hs => exact hs.isNumber.isValue
    | decimal hs => exact hs.isValue
    | text hs => exact .scalar (.text hs)
    | bracket hs => exact hs

end Json

namespace Value

open Json (HasType ValueType IsInteger IsNumber IsValue byte)
open Text.Utf8 (encode)

variable {cs : List Char} {d : Decimal} {t : ValueType} {v : Value} {raw : String}

/-! ## Numbers -/

/-- A number that does not fit: a whole one is no integer of 64 bits, any other is rounded to
infinity. -/
inductive Overflows (cs : List Char) : Prop
  | integer {d : Decimal} (hd : d.Writes cs) (hwhole : d.isWhole = true)
      (hvalue : d.value < -2 ^ 63 ∨ 2 ^ 63 ≤ d.value)
  | decimal {d : Decimal} (hd : d.Writes cs) (hpart : d.isWhole = false)
      (hvalue : 2 ^ 1024 - 2 ^ 970 ≤ d.magnitude)

theorem Overflows.exists_writes (h : Overflows cs) : ∃ d : Decimal, d.Writes cs := by
  cases h with
  | integer hd => exact ⟨_, hd⟩
  | decimal hd => exact ⟨_, hd⟩

theorem trim_of_writes (h : d.Writes cs) : Text.trim cs = cs := by
  have hblank : ∀ c ∈ cs, Text.isBlank c = false :=
    h.forall (fun _ ↦ Text.isBlank_of_isDigit) (by simp [Text.isBlank])
  exact (Text.isTight_of_forall hblank).trim_eq

/-- A number is handed back exactly if it does not fit. -/
theorem infer_eq_error_iff_overflows (hd : d.Writes raw.toList) :
    infer raw = .error ⟨raw⟩ ↔ Overflows raw.toList := by
  have htrim : d.Writes (Text.trim raw.toList) := by rwa [trim_of_writes hd]
  cases hwhole : d.isWhole with
  | true =>
    rw [infer_eq_error_of_isWhole htrim hwhole]
    constructor
    · exact fun h ↦ .integer hd hwhole h
    · rintro (⟨hd', -, h⟩ | ⟨hd', hpart, -⟩)
      · rwa [hd.unique hd']
      · rw [← hd.unique hd', hwhole] at hpart
        cases hpart
  | false =>
    rw [infer_eq_error_of_not_isWhole htrim hwhole]
    constructor
    · exact fun h ↦ .decimal hd hwhole h
    · rintro (⟨hd', hpart, -⟩ | ⟨hd', -, h⟩)
      · rw [← hd.unique hd', hwhole] at hpart
        cases hpart
      · rwa [hd.unique hd']

/-- A number that fits is an integer exactly if it is whole. -/
theorem kind_of_writes (hd : d.Writes raw.toList) (h : infer raw = .ok v) :
    v.kind = if d.isWhole then .int else .float := by
  have hspelled := infer_eq_ok_iff.1 h
  rw [trim_of_writes hd] at hspelled
  have hvalue := hspelled.ofTrimmed?_eq
  rw [ofTrimmed?_of_writes hd] at hvalue
  unfold ofDecimal? at hvalue
  cases hwhole : d.isWhole with
  | true =>
    rw [if_pos hwhole] at hvalue
    split at hvalue <;> cases hvalue
    rfl
  | false =>
    rw [if_neg (by rw [hwhole]; exact Bool.false_ne_true)] at hvalue
    dsimp only at hvalue
    split at hvalue <;> cases hvalue
    rfl

/-! ## Words, texts and brackets -/

/-- A text is in quotes if its bytes are. -/
theorem exists_of_quoted {body : List UInt8} (h : encode raw = byte '"' :: body ++ [byte '"']) :
    ∃ s : String, raw = "\"" ++ s ++ "\"" ∧ encode s = body := by
  rw [Text.Utf8.encode_eq_flatMap] at h
  obtain ⟨cs, hcs, hrest⟩ := Text.Utf8.exists_cons_of_flatMap (c := '"') (by decide) h
  obtain ⟨ds, rfl, hds⟩ := Text.Utf8.exists_concat_of_flatMap (c := '"') (by decide) hrest
  refine ⟨String.ofList ds, ?_, ?_⟩
  · rw [← String.toList_inj, hcs]
    simp
  · rw [Text.Utf8.encode_eq_flatMap, String.toList_ofList, hds]

/-- A bracket begins no literal. -/
theorem Spelled.head?_ne (h : Spelled cs v) {c : Char} (hc : c = '[' ∨ c = '\x7b') :
    cs.head? ≠ some c := by
  have hnumber {d : Decimal} (hd : d.Writes cs) : cs.head? ≠ some c := by
    have hnot : ∀ a ∈ cs, a ≠ '[' ∧ a ≠ '\x7b' := by
      refine hd.forall (fun a ha ↦ ?_) (by simp)
      constructor <;> rintro rfl <;> cases ha
    intro hhead
    have hmem := hnot c (List.mem_of_mem_head? hhead)
    exact hc.elim hmem.1 hmem.2
  cases h with
  | int hd => exact hnumber hd
  | float hd => exact hnumber hd
  | null => rcases hc with rfl | rfl <;> decide
  | true => rcases hc with rfl | rfl <;> decide
  | false => rcases hc with rfl | rfl <;> decide
  | string s => rcases hc with rfl | rfl <;> simp

theorem infer_bracket {k : Json.Bracket} {s : List UInt8} (h : encode raw = k.opening :: s) :
    infer raw = .error ⟨raw⟩ := by
  obtain ⟨c, hc, hopen⟩ : ∃ c, (c = '[' ∨ c = '\x7b') ∧ k.opening = UInt8.ofNat c.toNat := by
    cases k
    · exact ⟨'[', .inl rfl, rfl⟩
    · exact ⟨'\x7b', .inr rfl, rfl⟩
  have hlt : c.toNat < 0x80 := by rcases hc with rfl | rfl <;> decide
  have hblank : Text.isBlank c = false := by rcases hc with rfl | rfl <;> decide
  rw [hopen, Text.Utf8.encode_eq_flatMap] at h
  obtain ⟨cs, hcs, -⟩ := Text.Utf8.exists_cons_of_flatMap hlt h
  -- what trimming leaves still begins with the bracket
  rw [infer_eq_error_iff, hcs]
  exact ⟨rfl, fun v hv ↦ hv.head?_ne hc (Text.head?_trim hblank cs)⟩

/-! ## Types and kinds -/

theorem infer_number (hd : d.Writes raw.toList) :
    (∃ v, infer raw = .ok v ∧ (ValueType.number d.isWhole).kind? = some v.kind) ∨
      infer raw = .error ⟨raw⟩ ∧ Overflows raw.toList := by
  cases h : infer raw with
  | ok v => exact .inl ⟨v, rfl, by rw [kind_of_writes hd h]; rfl⟩
  | error e =>
    obtain rfl := (infer_eq_error_iff.1 h).1
    exact .inr ⟨rfl, (infer_eq_error_iff_overflows hd).1 h⟩

/-- A value is a literal of the kind that belongs to its type, unless it is in brackets or does not
fit. -/
theorem infer_of_hasType (h : HasType t (encode raw)) :
    (∃ v, infer raw = .ok v ∧ t.kind? = some v.kind) ∨
      infer raw = .error ⟨raw⟩ ∧ (t.kind? = none ∨ Overflows raw.toList) := by
  generalize hs : encode raw = s at h
  cases h with
  | null =>
    obtain rfl := Text.Utf8.encode_injective (t := "null") hs
    exact .inl ⟨.null, infer_of_literal rfl, rfl⟩
  | true =>
    obtain rfl := Text.Utf8.encode_injective (t := "true") hs
    exact .inl ⟨.bool true, infer_of_literal rfl, rfl⟩
  | false =>
    obtain rfl := Text.Utf8.encode_injective (t := "false") hs
    exact .inl ⟨.bool false, infer_of_literal rfl, rfl⟩
  | integer hinteger =>
    obtain ⟨d, hwhole, hd⟩ := Json.isInteger_encode_iff.1 (hs ▸ hinteger)
    rw [← hwhole]
    exact (infer_number hd).imp_right fun ⟨h, hover⟩ ↦ ⟨h, .inr hover⟩
  | decimal hnumber hpart =>
    obtain ⟨d, hd⟩ := Json.isNumber_encode_iff.1 (hs ▸ hnumber)
    have hwhole : d.isWhole = false := by
      refine Bool.eq_false_iff.2 fun hwhole ↦ hpart ?_
      rw [← hs, Json.isInteger_encode_iff]
      exact ⟨d, hwhole, hd⟩
    rw [← hwhole]
    exact (infer_number hd).imp_right fun ⟨h, hover⟩ ↦ ⟨h, .inr hover⟩
  | text hbody =>
    obtain ⟨s, rfl, -⟩ := exists_of_quoted hs
    exact .inl ⟨.string s, infer_of_literal rfl, rfl⟩
  | bracket hvalue => exact .inr ⟨infer_bracket hs, .inl rfl⟩

theorem exists_error_iff_of_hasType (h : HasType t (encode raw)) :
    (∃ e, infer raw = .error e) ↔ t.kind? = none ∨ Overflows raw.toList := by
  rcases infer_of_hasType h with ⟨v, hv, hkind⟩ | ⟨herror, hwhy⟩
  · refine iff_of_false ?_ ?_
    · rintro ⟨e, he⟩
      rw [hv] at he
      cases he
    · rintro (hnone | hover)
      · rw [hkind] at hnone
        cases hnone
      · obtain ⟨d, hd⟩ := hover.exists_writes
        rw [(infer_eq_error_iff_overflows hd).2 hover] at hv
        cases hv
  · exact iff_of_true ⟨_, herror⟩ hwhy

theorem kind_of_hasType (h : HasType t (encode raw)) (hv : infer raw = .ok v) :
    t.kind? = some v.kind := by
  rcases infer_of_hasType h with ⟨w, hw, hkind⟩ | ⟨herror, -⟩
  · rw [hv] at hw
    cases hw
    exact hkind
  · rw [hv] at herror
    cases herror

/-! ## Values that come from values -/

theorem encode_quoted (s : String) :
    encode ("\"" ++ s ++ "\"") = byte '"' :: encode s ++ [byte '"'] := by
  rw [Text.Utf8.encode_append, Text.Utf8.encode_append]
  rfl

/-- What stands in a text of a value may stand between the quotes of a text. -/
theorem isBody_of_infer (h : IsValue (encode raw)) {s : String} (hs : infer raw = .ok (.string s)) :
    Json.IsBody (encode s) := by
  obtain ⟨t, ht⟩ := Json.isValue_iff_exists_hasType.1 h
  have hkind := kind_of_hasType ht hs
  generalize hraw : encode raw = bytes at ht
  cases ht with
  | text hbody =>
    obtain ⟨s', rfl, rfl⟩ := exists_of_quoted hraw
    rw [infer_of_literal (v := .string s') rfl] at hs
    cases hs
    exact hbody
  | null => cases hkind
  | true => cases hkind
  | false => cases hkind
  | integer => cases hkind
  | decimal => cases hkind
  | bracket => cases hkind

/-- The literal of a value that was read from a JSON value is one itself. -/
theorem isValue_literal (h : IsValue (encode raw)) (hv : infer raw = .ok v) {w : String}
    (hw : literal? v = some w) : IsValue (encode w) := by
  cases v with
  | null =>
    cases hw
    exact .scalar .null
  | bool b =>
    cases hw
    cases b
    · exact .scalar .false
    · exact .scalar .true
  | int n =>
    cases hw
    exact (Json.isInteger_encode_iff.2
      ⟨_, Decimal.isWhole_ofInt _, Decimal.writes_toString _⟩).isNumber.isValue
  | string s =>
    cases hw
    rw [encode_quoted]
    exact .scalar (.text (isBody_of_infer h hv))
  | float x => cases hw
  | invalid => cases hw

end Value

end RecordGateway
