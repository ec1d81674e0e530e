import RecordGateway.Proofs.Field.Cutting
import RecordGateway.Proofs.Number.Rounding
import RecordGateway.Proofs.Text.Blank

/-!
# What the literals are

A literal, blanks around it aside, is read as a value exactly if it is one of the ways to write that
value.  A number without fraction and exponent is written for its integer and for nothing else; any
other number is written for the double that it rounds to, if that is finite.
-/

namespace RecordGateway.Value

open Text (AreBlank IsTight trim)

/-! ## The ways to write a value -/

/-- The ways to write a value. -/
inductive Spelled : List Char → Value → Prop
  | null : Spelled "null".toList .null
  | true : Spelled "true".toList (.bool true)
  | false : Spelled "false".toList (.bool false)
  | int {cs} {d : Decimal} {n : Int64} (hd : d.Writes cs) (hwhole : d.isWhole = Bool.true)
      (hvalue : d.value = n.toInt) : Spelled cs (.int n)
  | float {cs} {d : Decimal} {x : Binary64} (hd : d.Writes cs) (hpart : d.isWhole = Bool.false)
      (hround : x.RoundsTo d.negative d.magnitude) (hfinite : x.isFinite = Bool.true) :
      Spelled cs (.float x)
  | string (s : String) : Spelled ('"' :: s.toList ++ ['"']) (.string s)

variable {cs : List Char} {d : Decimal} {v : Value} {raw : String}

theorem inInt64_iff {n : Int} : inInt64 n = true ↔ -2 ^ 63 ≤ n ∧ n < 2 ^ 63 := by
  have hmin : Int64.minValue.toInt = -2 ^ 63 := by decide
  have hmax : Int64.maxValue.toInt = 2 ^ 63 - 1 := by decide
  simp only [inInt64, hmin, hmax, Bool.and_eq_true, decide_eq_true_eq]
  omega

theorem inInt64_toInt (n : Int64) : inInt64 n.toInt = true :=
  inInt64_iff.2 ⟨n.le_toInt, n.toInt_lt⟩

/-! ## Reading what is written -/

/-- What is none of the words is a number or in quotes. -/
theorem ofTrimmed?_of_ne (h : ∀ w ∈ ["null", "true", "false"], cs ≠ w.toList) :
    ofTrimmed? cs = (Decimal.parse? cs).elim
      ((unquote? cs).map fun s ↦ .string (String.ofList s)) ofDecimal? := by
  rw [ofTrimmed?, if_neg (h _ (by simp)), if_neg (h _ (by simp)), if_neg (h _ (by simp))]
  cases Decimal.parse? cs <;> rfl

theorem ofTrimmed?_of_writes (h : d.Writes cs) : ofTrimmed? cs = ofDecimal? d := by
  have hparse := Decimal.parse?_of_writes h
  have hwords : ∀ w ∈ ["null", "true", "false"], Decimal.parse? w.toList = none := by decide
  rw [ofTrimmed?_of_ne, hparse, Option.elim_some]
  rintro w hw rfl
  rw [hwords w hw] at hparse
  cases hparse

theorem ofTrimmed?_quoted (s : String) :
    ofTrimmed? ('"' :: s.toList ++ ['"']) = some (.string s) := by
  have hwords : ∀ w ∈ ["null", "true", "false"], w.toList.head? ≠ some '"' := by decide
  have hparse : Decimal.parse? ('"' :: s.toList ++ ['"']) = none := rfl
  rw [ofTrimmed?_of_ne, hparse, Option.elim_none, unquote?_eq_some_iff.2 rfl]
  · exact congrArg (some ∘ Value.string) String.ofList_toList
  · intro w hw heq
    exact hwords w hw (congrArg List.head? heq).symm

theorem Spelled.ofTrimmed?_eq (h : Spelled cs v) : ofTrimmed? cs = some v := by
  cases h with
  | null => rfl
  | true => rfl
  | false => rfl
  | @int _ d n hd hwhole hvalue =>
    have hn : d.toInt = n.toInt := by
      rw [Decimal.value_of_isWhole hwhole] at hvalue
      exact_mod_cast hvalue
    rw [ofTrimmed?_of_writes hd, ofDecimal?, if_pos hwhole, hn, if_pos (inInt64_toInt n),
      Int64.ofInt_toInt]
  | @float _ d x hd hpart hround hfinite =>
    obtain rfl := Binary64.roundsTo_iff_eq_ofDecimal.1 hround
    rw [ofTrimmed?_of_writes hd, ofDecimal?, if_neg (by rw [hpart]; exact Bool.false_ne_true)]
    exact if_pos hfinite
  | string s => exact ofTrimmed?_quoted s

theorem Spelled.of_writes (hd : d.Writes cs) (h : ofDecimal? d = some v) : Spelled cs v := by
  unfold ofDecimal? at h
  split at h
  next hwhole =>
    split at h
    next hin =>
      obtain ⟨hle, hlt⟩ := inInt64_iff.1 hin
      cases h
      refine .int hd hwhole ?_
      rw [Decimal.value_of_isWhole hwhole, Int64.toInt_ofInt_of_le hle hlt]
    next => cases h
  next hpart =>
    dsimp only at h
    split at h
    next hfinite =>
      cases h
      exact .float hd (Bool.eq_false_iff.2 hpart) (Binary64.roundsTo_ofDecimal d) hfinite
    next => cases h

theorem Spelled.of_ofTrimmed? (h : ofTrimmed? cs = some v) : Spelled cs v := by
  unfold ofTrimmed? at h
  split at h
  next hcs =>
    cases h
    exact hcs ▸ .null
  split at h
  next hcs =>
    cases h
    exact hcs ▸ .true
  split at h
  next hcs =>
    cases h
    exact hcs ▸ .false
  split at h
  next d hparse => exact .of_writes (Decimal.writes_of_parse? hparse) h
  next =>
    obtain ⟨s, hs, rfl⟩ := Option.map_eq_some_iff.1 h
    have hspelled := Spelled.string (String.ofList s)
    rwa [String.toList_ofList, ← unquote?_eq_some_iff.1 hs] at hspelled

theorem ofTrimmed?_eq_some_iff : ofTrimmed? cs = some v ↔ Spelled cs v :=
  ⟨.of_ofTrimmed?, fun h ↦ h.ofTrimmed?_eq⟩

/-- A literal is read as the value that it is written for. -/
theorem infer_eq_ok_iff : infer raw = .ok v ↔ Spelled (trim raw.toList) v := by
  rw [← ofTrimmed?_eq_some_iff, infer]
  cases ofTrimmed? (trim raw.toList) with
  | none => simp
  | some w => simp

/-- What is written for no value is handed back as it was given. -/
theorem infer_eq_error_iff {e : Unrecognised} :
    infer raw = .error e ↔ e = ⟨raw⟩ ∧ ∀ v, ¬Spelled (trim raw.toList) v := by
  simp only [← ofTrimmed?_eq_some_iff, infer]
  cases ofTrimmed? (trim raw.toList) with
  | none => simp [eq_comm]
  | some w => simp

theorem infer_ne_invalid : infer raw ≠ .ok .invalid := by
  intro h
  have hspelled := infer_eq_ok_iff.1 h
  generalize trim raw.toList = cs at hspelled
  cases hspelled

/-! ## Numbers that are no values -/

theorem infer_eq_error_of_writes (hd : d.Writes (trim raw.toList)) :
    infer raw = .error ⟨raw⟩ ↔ ofDecimal? d = none := by
  rw [infer, ofTrimmed?_of_writes hd]
  cases ofDecimal? d with
  | none => simp
  | some v => simp

/-- A number without fraction and exponent is handed back exactly if it does not fit. -/
theorem infer_eq_error_of_isWhole (hd : d.Writes (trim raw.toList)) (hwhole : d.isWhole = true) :
    infer raw = .error ⟨raw⟩ ↔ d.value < -2 ^ 63 ∨ 2 ^ 63 ≤ d.value := by
  have hfits : inInt64 d.toInt = true ↔ ¬(d.value < -2 ^ 63 ∨ 2 ^ 63 ≤ d.value) := by
    rw [inInt64_iff, Decimal.value_of_isWhole hwhole, not_or, not_lt, not_le]
    norm_cast
  rw [infer_eq_error_of_writes hd, ofDecimal?, if_pos hwhole, ← not_not (a := _ ∨ _), ← hfits]
  simp

/-- Any other number is handed back exactly if it is rounded to infinity. -/
theorem infer_eq_error_of_not_isWhole (hd : d.Writes (trim raw.toList))
    (hpart : d.isWhole = false) :
    infer raw = .error ⟨raw⟩ ↔ 2 ^ 1024 - 2 ^ 970 ≤ d.magnitude := by
  rw [infer_eq_error_of_writes hd, ofDecimal?, if_neg (by rw [hpart]; exact Bool.false_ne_true),
    ← not_lt, ← (Binary64.roundsTo_ofDecimal d).isFinite_iff]
  simp

/-! ## Values that are written -/

/-- The literal that a value is written as.  What stands in a text is kept as it is.  A double can
be written in many ways, none of which is chosen here. -/
def literal? : Value → Option String
  | null => some "null"
  | bool b => some (toString b)
  | int n => some (toString n.toInt)
  | string s => some ("\"" ++ s ++ "\"")
  | float _ => none
  | invalid => none

variable {w : String}

theorem exists_literal (hfloat : v.kind ≠ .float) (hinvalid : v ≠ .invalid) :
    ∃ w, literal? v = some w := by
  cases v with
  | float x => exact absurd rfl hfloat
  | invalid => exact absurd rfl hinvalid
  | _ => exact ⟨_, rfl⟩

theorem spelled_literal (h : literal? v = some w) : Spelled w.toList v := by
  cases v with
  | null =>
    cases h
    exact .null
  | bool b =>
    cases h
    cases b
    · exact .false
    · exact .true
  | int n =>
    cases h
    refine .int (Decimal.writes_toString _) (Decimal.isWhole_ofInt _) ?_
    rw [Decimal.value_of_isWhole (Decimal.isWhole_ofInt _), Decimal.toInt_ofInt]
  | string s =>
    cases h
    rw [String.toList_append, String.toList_append]
    exact .string s
  | float x => cases h
  | invalid => cases h

theorem isTight_toString (n : Int) : IsTight (toString n).toList := by
  refine Text.isTight_of_forall fun c hc ↦ ?_
  rw [Decimal.toList_toString, List.mem_append] at hc
  rcases hc with hsign | hdigit
  · obtain ⟨-, rfl⟩ : n < 0 ∧ c = '-' := by simpa [Decimal.signText] using hsign
    decide
  · exact Text.isBlank_of_isDigit (Nat.isDigit_of_mem_toDigits (by decide) (by decide) hdigit)

/-- A literal has no blanks around it. -/
theorem isTight_literal (h : literal? v = some w) : IsTight w.toList := by
  cases v with
  | null =>
    cases h
    exact Text.isTight_of_forall (by simp [Text.isBlank])
  | bool b =>
    cases h
    have hfalse : ∀ c ∈ "false".toList, Text.isBlank c = false := by simp [Text.isBlank]
    have htrue : ∀ c ∈ "true".toList, Text.isBlank c = false := by simp [Text.isBlank]
    cases b
    · exact Text.isTight_of_forall hfalse
    · exact Text.isTight_of_forall htrue
  | int n =>
    cases h
    exact isTight_toString _
  | string s =>
    cases h
    rw [String.toList_append, String.toList_append]
    have hquote : IsTight ['"'] := Text.isTight_of_forall (List.forall_mem_singleton.2 rfl)
    exact hquote.append (List.cons_ne_nil _ _) hquote (List.cons_ne_nil _ _) s.toList
  | float x => cases h
  | invalid => cases h

/-- The literal of a value is read as the value, whatever blanks are put around it. -/
theorem infer_literal (h : literal? v = some w) {lead trail : List Char} (hlead : AreBlank lead)
    (htrail : AreBlank trail) : infer (String.ofList (lead ++ w.toList ++ trail)) = .ok v := by
  rw [infer_eq_ok_iff, String.toList_ofList, Text.trim_append hlead (isTight_literal h) htrail]
  exact spelled_literal h

theorem infer_of_literal (h : literal? v = some w) : infer w = .ok v := by
  have hnone : AreBlank [] := fun _ hc ↦ by cases hc
  have hinfer := infer_literal h hnone hnone
  rwa [List.append_nil, List.nil_append, String.ofList_toList] at hinfer

/-! ## What is read -/

/-- **Literals.**  A text is what trimming leaves of it, between blanks.  It is read as a value
exactly if what is left is written for that value, and else handed back as it was given; a number
that does not fit into an integer, or that is rounded to infinity, is handed back.  A recogniser
that goes by places never cuts outside of the text, and says the same.  Every value but a double
has a literal, which is read as the value whatever blanks are put around it. -/
theorem infer_exact (raw : String) :
    (∃ lead trail, AreBlank lead ∧ AreBlank trail ∧ IsTight (trim raw.toList) ∧
      raw.toList = lead ++ trim raw.toList ++ trail) ∧
    (∀ v, infer raw = .ok v ↔ Spelled (trim raw.toList) v) ∧
    (∀ e, infer raw = .error e ↔ e = ⟨raw⟩ ∧ ∀ v, ¬Spelled (trim raw.toList) v) ∧
    (∀ d : Decimal, d.Writes (trim raw.toList) → (infer raw = .error ⟨raw⟩ ↔
      if d.isWhole then d.value < -2 ^ 63 ∨ 2 ^ 63 ≤ d.value
      else 2 ^ 1024 - 2 ^ 970 ≤ d.magnitude)) ∧
    inferCutting raw = some (infer raw) ∧
    ∀ v, v.kind ≠ .float → v ≠ .invalid → ∃ w, literal? v = some w ∧
      ∀ lead trail, AreBlank lead → AreBlank trail →
        infer (String.ofList (lead ++ w.toList ++ trail)) = .ok v := by
  refine ⟨?_, fun v ↦ infer_eq_ok_iff, fun e ↦ infer_eq_error_iff, fun d hd ↦ ?_,
    inferCutting_eq raw, fun v hfloat hinvalid ↦ ?_⟩
  · obtain ⟨lead, trail, hlead, htrail, hraw⟩ := Text.exists_trim raw.toList
    exact ⟨lead, trail, hlead, htrail, Text.isTight_trim _, hraw⟩
  · cases hwhole : d.isWhole with
    | true => simpa using infer_eq_error_of_isWhole hd hwhole
    | false => simpa using infer_eq_error_of_not_isWhole hd hwhole
  · obtain ⟨w, hw⟩ := exists_literal hfloat hinvalid
    exact ⟨w, hw, fun lead trail hlead htrail ↦ infer_literal hw hlead htrail⟩

/-- One below the least integer is no value, and a text with a quote in it is read back. -/
theorem infer_exact_below :
    ((⟨true, "9223372036854775809".toList, none, none⟩ : Decimal).Writes
        (trim " -9223372036854775809\n".toList) ∧
      infer " -9223372036854775809\n" = .error ⟨" -9223372036854775809\n"⟩) ∧
    kind (.string "a\"b") ≠ .float ∧ string "a\"b" ≠ .invalid ∧
    AreBlank ['\u2003'] ∧ AreBlank ['\t', ' '] ∧ ∃ w, literal? (.string "a\"b") = some w ∧
      infer (String.ofList (['\u2003'] ++ w.toList ++ ['\t', ' '])) = .ok (.string "a\"b") := by
  have hd : (⟨true, "9223372036854775809".toList, none, none⟩ : Decimal).Writes
      (trim " -9223372036854775809\n".toList) := Decimal.writes_of_parse? (by decide)
  have hvalue : (⟨true, "9223372036854775809".toList, none, none⟩ : Decimal).toInt
      = -9223372036854775809 := by decide
  have hlead : AreBlank ['\u2003'] := List.forall_mem_singleton.2 rfl
  have htrail : AreBlank ['\t', ' '] :=
    List.forall_mem_cons.2 ⟨rfl, List.forall_mem_singleton.2 rfl⟩
  have hfloat : kind (.string "a\"b") ≠ .float := by decide
  have hinvalid : string "a\"b" ≠ .invalid := by decide
  obtain ⟨w, hw, hread⟩ := (infer_exact "").2.2.2.2.2 _ hfloat hinvalid
  refine ⟨⟨hd, ((infer_exact _).2.2.2.1 _ hd).2 ?_⟩, hfloat, hinvalid, hlead, htrail, w, hw,
    hread _ _ hlead htrail⟩
  rw [if_pos (by decide), Decimal.value_of_isWhole rfl, hvalue]
  norm_num

end RecordGateway.Value
