import RecordGateway.Proofs.Json.Grammar
import RecordGateway.Proofs.Number.Decimal
import RecordGateway.Proofs.Text.Utf8

/-!
# Numbers as bytes and as characters

The bytes that make a number in JSON are those of the characters that a number is written as, and
the number has no fraction and no exponent exactly if its bytes are only a whole part.
-/

namespace RecordGateway.Json

/-- What stands for itself or behind a minus sign. -/
inductive IsSigned (Unsigned : List UInt8 → Prop) : List UInt8 → Prop
  | unsigned {s} (hs : Unsigned s) : IsSigned Unsigned s
  | negative {s} (hs : Unsigned s) : IsSigned Unsigned (byte '-' :: s)

/-- A number, which may have a minus sign. -/
def IsNumber (s : List UInt8) : Prop := IsSigned IsUnsigned s

/-- A number without fraction and exponent. -/
def IsInteger (s : List UInt8) : Prop := IsSigned IsWhole s

variable {s : List UInt8} {d : Decimal}

/-! ## Characters of single bytes -/

/-- The character with the number of a byte. -/
def latin (b : UInt8) : Char := Char.ofNat b.toNat

theorem toNat_latin (b : UInt8) : (latin b).toNat = b.toNat := by
  have hlt := b.toNat_lt
  exact Text.Utf8.toNat_ofNat (.inl (by omega))

theorem latin_injective : Function.Injective latin := by
  intro a b h
  rw [← UInt8.toNat_inj, ← toNat_latin, ← toNat_latin, h]

theorem latin_eq_iff {b : UInt8} {c : Char} (hc : latin (byte c) = c) :
    latin b = c ↔ b = byte c := by
  constructor
  · intro h
    exact latin_injective (h.trans hc.symm)
  · rintro rfl
    exact hc

theorem isDigit_eq_isDigit_latin (b : UInt8) : isDigit b = (latin b).isDigit := by
  rw [Bool.eq_iff_iff, Char.isDigit_iff_toNat, toNat_latin]
  simp [isDigit, UInt8.le_iff_toNat_le]

/-! ## The parts of a number -/

theorem isDigit_of_all_latin_iff :
    (∀ b ∈ s, isDigit b = true) ↔ ∀ c ∈ s.map latin, c.isDigit = true := by
  rw [List.forall_mem_map]
  exact forall₂_congr fun b _ ↦ by rw [isDigit_eq_isDigit_latin]

theorem areDigits_iff : AreDigits s ↔ Decimal.AreDigits (s.map latin) := by
  rw [AreDigits, Decimal.AreDigits, isDigit_of_all_latin_iff, Ne, Ne, List.map_eq_nil_iff]

theorem isWhole_iff : IsWhole s ↔ Decimal.IsWholePart (s.map latin) := by
  have hzero {b : UInt8} : latin b = '0' ↔ b = byte '0' := latin_eq_iff (by decide)
  constructor
  · intro h
    cases h with
    | zero => exact .zero
    | digits hd hne hds =>
      exact .digits (by rwa [← isDigit_eq_isDigit_latin]) (fun h ↦ hne (hzero.1 h))
        (isDigit_of_all_latin_iff.1 hds)
  · intro h
    generalize heq : s.map latin = cs at h
    cases h with
    | zero =>
      obtain ⟨b, rfl, hb⟩ := List.map_eq_singleton_iff.1 heq
      rw [hzero.1 hb]
      exact .zero
    | digits hc hne hcs =>
      obtain ⟨b, ds, rfl, rfl, rfl⟩ := List.map_eq_cons_iff.1 heq
      exact .digits (by rwa [isDigit_eq_isDigit_latin]) (fun h ↦ hne (hzero.2 h))
        (isDigit_of_all_latin_iff.2 hcs)

theorem isFraction_iff : IsFraction s ↔ ∃ f, Decimal.WritesFraction f (s.map latin) := by
  have hpoint {b : UInt8} : latin b = '.' ↔ b = byte '.' := latin_eq_iff (by decide)
  constructor
  · intro h
    cases h with
    | none => exact ⟨_, .none⟩
    | some hds =>
      rw [List.map_cons, hpoint.2 rfl]
      exact ⟨_, .some (areDigits_iff.1 hds)⟩
  · rintro ⟨f, h⟩
    generalize heq : s.map latin = cs at h
    cases h with
    | none =>
      rw [List.map_eq_nil_iff.1 heq]
      exact .none
    | some hds =>
      obtain ⟨b, ds, rfl, hb, rfl⟩ := List.map_eq_cons_iff.1 heq
      rw [hpoint.1 hb]
      exact .some (areDigits_iff.2 hds)

theorem isExponentSign_iff :
    s ∈ [[], [byte '+'], [byte '-']] ↔ ∃ n, Decimal.WritesExponentSign n (s.map latin) := by
  have hplus {b : UInt8} : latin b = '+' ↔ b = byte '+' := latin_eq_iff (by decide)
  have hminus {b : UInt8} : latin b = '-' ↔ b = byte '-' := latin_eq_iff (by decide)
  simp only [List.mem_cons, List.not_mem_nil, or_false]
  constructor
  · rintro (rfl | rfl | rfl)
    · exact ⟨_, .none⟩
    · exact ⟨_, .plus⟩
    · exact ⟨_, .minus⟩
  · rintro ⟨n, h⟩
    generalize heq : s.map latin = cs at h
    cases h with
    | none => exact .inl (List.map_eq_nil_iff.1 heq)
    | plus =>
      obtain ⟨b, rfl, hb⟩ := List.map_eq_singleton_iff.1 heq
      exact .inr (.inl (by rw [hplus.1 hb]))
    | minus =>
      obtain ⟨b, rfl, hb⟩ := List.map_eq_singleton_iff.1 heq
      exact .inr (.inr (by rw [hminus.1 hb]))

theorem isExponent_iff : IsExponent s ↔ ∃ x, Decimal.WritesExponent x (s.map latin) := by
  have hlower {b : UInt8} : latin b = 'e' ↔ b = byte 'e' := latin_eq_iff (by decide)
  have hupper {b : UInt8} : latin b = 'E' ↔ b = byte 'E' := latin_eq_iff (by decide)
  constructor
  · intro h
    cases h with
    | none => exact ⟨_, .none⟩
    | some he hsign hds =>
      obtain ⟨n, hn⟩ := isExponentSign_iff.1 hsign
      rw [List.map_append, List.map_cons]
      exact ⟨_, .some (he.imp hlower.2 hupper.2) hn (areDigits_iff.1 hds)⟩
  · rintro ⟨x, h⟩
    generalize heq : s.map latin = cs at h
    cases h with
    | none =>
      rw [List.map_eq_nil_iff.1 heq]
      exact .none
    | some he hsign hds =>
      obtain ⟨l, ds, rfl, hl, rfl⟩ := List.map_eq_append_iff.1 heq
      obtain ⟨b, sign, rfl, rfl, rfl⟩ := List.map_eq_cons_iff.1 hl
      exact .some (he.imp hlower.1 hupper.1) (isExponentSign_iff.2 ⟨_, hsign⟩) (areDigits_iff.2 hds)

/-! ## Numbers -/

theorem isUnsigned_iff :
    IsUnsigned s ↔ ∃ d : Decimal, d.negative = false ∧ d.Writes (s.map latin) := by
  constructor
  · rintro ⟨hw, hf, he⟩
    obtain ⟨f, hf⟩ := isFraction_iff.1 hf
    obtain ⟨x, hx⟩ := isExponent_iff.1 he
    rw [List.map_append, List.map_append]
    exact ⟨_, rfl, Decimal.writes_unsigned (isWhole_iff.1 hw) hf hx⟩
  · rintro ⟨d, hneg, h⟩
    generalize heq : s.map latin = cs at h
    obtain @⟨negative, _, _, _, _, _, hw, hf, hx⟩ := h
    cases hneg
    obtain ⟨l, x, rfl, hl, rfl⟩ := List.map_eq_append_iff.1 heq
    obtain ⟨w, f, rfl, rfl, rfl⟩ := List.map_eq_append_iff.1 hl
    exact .mk (isWhole_iff.2 hw) (isFraction_iff.2 ⟨_, hf⟩) (isExponent_iff.2 ⟨_, hx⟩)

theorem isWhole_iff_exists : IsWhole s ↔
    ∃ d : Decimal, d.negative = false ∧ d.isWhole = true ∧ d.Writes (s.map latin) := by
  rw [isWhole_iff]
  constructor
  · intro h
    have hwrites := Decimal.writes_unsigned h .none .none
    rw [List.append_nil, List.append_nil] at hwrites
    exact ⟨_, rfl, rfl, hwrites⟩
  · rintro ⟨d, hneg, hwhole, h⟩
    obtain ⟨hnone, hnone'⟩ := Decimal.isWhole_iff.1 hwhole
    generalize s.map latin = cs at h
    obtain ⟨hw, hf, hx⟩ := h
    cases hneg
    cases hnone
    cases hnone'
    cases hf
    cases hx
    rw [List.append_nil, List.append_nil]
    exact hw

/-- What holds of numbers, whatever their sign, holds of what has a minus sign in front. -/
theorem isSigned_iff {Unsigned : List UInt8 → Prop} {Holds : Decimal → Prop}
    (hsign : ∀ (d : Decimal) (negative : Bool), Holds d → Holds { d with negative })
    (h : ∀ s, Unsigned s ↔
      ∃ d : Decimal, d.negative = false ∧ Holds d ∧ d.Writes (s.map latin)) :
    IsSigned Unsigned s ↔ ∃ d : Decimal, Holds d ∧ d.Writes (s.map latin) := by
  have hminus {b : UInt8} : latin b = '-' ↔ b = byte '-' := latin_eq_iff (by decide)
  constructor
  · rintro (hs | hs)
    · obtain ⟨d, -, hd, hwrites⟩ := (h _).1 hs
      exact ⟨d, hd, hwrites⟩
    · obtain ⟨⟨_, whole, fraction, exponent⟩, rfl, hd, hwrites⟩ := (h _).1 hs
      exact ⟨_, hsign _ true hd, Decimal.writes_iff.2 ⟨rfl, hwrites⟩⟩
  · rintro ⟨d, hd, hwrites⟩
    obtain ⟨hneg, hrest⟩ := Decimal.writes_iff.1 hwrites
    have htext := Decimal.eq_signText_append (s.map latin)
    rw [← hneg] at htext
    cases hcase : d.negative with
    | false => exact .unsigned ((h _).2 ⟨d, hcase, hd, hwrites⟩)
    | true =>
      rw [hcase] at htext
      obtain ⟨b, s, rfl, hb, heq⟩ := List.map_eq_cons_iff.1 htext
      have heq : s.map latin = (Decimal.takeSign ((b :: s).map latin)).2 := heq
      rw [← heq] at hrest
      rw [hminus.1 hb]
      exact .negative ((h s).2 ⟨_, rfl, hsign d false hd, hrest⟩)

theorem isNumber_iff : IsNumber s ↔ ∃ d : Decimal, d.Writes (s.map latin) := by
  have h : IsNumber s ↔ ∃ d : Decimal, True ∧ d.Writes (s.map latin) :=
    isSigned_iff (fun _ _ _ ↦ trivial) fun _ ↦ by simpa only [true_and] using isUnsigned_iff
  simpa only [true_and] using h

theorem isInteger_iff :
    IsInteger s ↔ ∃ d : Decimal, d.isWhole = true ∧ d.Writes (s.map latin) :=
  isSigned_iff (fun _ _ h ↦ h) fun _ ↦ isWhole_iff_exists

/-! ## Numbers in texts -/

theorem lt_of_isDigit {c : Char} (h : c.isDigit = true) : c.toNat < 0x80 := by
  have hle := (Char.isDigit_iff_toNat.1 h).2
  have hnine : '9'.toNat = 57 := rfl
  omega

/-- A number is written in ASCII. -/
theorem lt_of_writes {cs : List Char} (h : d.Writes cs) : ∀ c ∈ cs, c.toNat < 0x80 :=
  h.forall (fun _ hc ↦ lt_of_isDigit hc) (by simp)

theorem map_latin_encode {t : String} (h : ∀ c ∈ t.toList, c.toNat < 0x80) :
    (Text.Utf8.encode t).map latin = t.toList := by
  rw [Text.Utf8.encode_of_lt h, List.map_map]
  refine (List.map_congr_left fun c hc ↦ ?_).trans (List.map_id _)
  have hlt := h c hc
  have hbyte : (UInt8.ofNat c.toNat).toNat = c.toNat := by
    rw [UInt8.toNat_ofNat']
    omega
  rw [Function.comp_apply, latin, hbyte, Char.ofNat_toNat, id]

/-- A text has only characters of ASCII if its bytes are of ASCII. -/
theorem lt_of_encode_lt {t : String} (h : ∀ b ∈ Text.Utf8.encode t, b.toNat < 0x80) :
    ∀ c ∈ t.toList, c.toNat < 0x80 := by
  intro c hc
  obtain ⟨b, bs, hb, -⟩ := Text.Utf8.exists_cons_utf8EncodeChar c
  have hmem : b ∈ String.utf8EncodeChar c := by
    rw [hb]
    exact .head _
  have hlt := h b (by
    rw [Text.Utf8.encode_eq_flatMap]
    exact List.mem_flatMap.2 ⟨c, hc, hmem⟩)
  rcases Text.Utf8.of_mem_utf8EncodeChar hmem with heq | hge
  · omega
  · omega

/-- A text is a number exactly if the characters of its bytes are. -/
theorem writes_latin_iff {t : String} :
    d.Writes ((Text.Utf8.encode t).map latin) ↔ d.Writes t.toList := by
  constructor
  · intro h
    have hbytes : ∀ b ∈ Text.Utf8.encode t, b.toNat < 0x80 := by
      intro b hb
      rw [← toNat_latin]
      exact lt_of_writes h _ (List.mem_map_of_mem hb)
    rwa [map_latin_encode (lt_of_encode_lt hbytes)] at h
  · intro h
    rwa [map_latin_encode (lt_of_writes h)]

theorem isNumber_encode_iff {t : String} :
    IsNumber (Text.Utf8.encode t) ↔ ∃ d : Decimal, d.Writes t.toList := by
  simp only [isNumber_iff, writes_latin_iff]

theorem isInteger_encode_iff {t : String} :
    IsInteger (Text.Utf8.encode t) ↔ ∃ d : Decimal, d.isWhole = true ∧ d.Writes t.toList := by
  simp only [isInteger_iff, writes_latin_iff]

end RecordGateway.Json
