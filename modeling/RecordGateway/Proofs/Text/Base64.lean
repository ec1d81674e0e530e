import RecordGateway.Text.Encoding

/-!
# Base64 both ways

Every list of bytes has one Base64 text, which is decoded to it, and no other text is decoded.
-/

namespace RecordGateway.Text.Base64

/-! ## Digits -/

theorem digitValue?_digit {n : Nat} (h : n < 64) : digitValue? (digit n) = some n := by
  revert n
  decide

theorem of_digitValue? {c : Char} {n : Nat} (h : digitValue? c = some n) :
    n < 64 ∧ digit n = c := by
  have hc (m : Nat) (hm : m = c.toNat) : Char.ofNat m = c := by rw [hm, Char.ofNat_toNat]
  simp only [digitValue?] at h
  split at h
  next hr =>
    obtain rfl := Option.some.inj h
    refine ⟨by omega, ?_⟩
    rw [digit, if_pos (by omega), hc _ (by omega)]
  split at h
  next hr =>
    obtain rfl := Option.some.inj h
    refine ⟨by omega, ?_⟩
    rw [digit, if_neg (by omega), if_pos (by omega), hc _ (by omega)]
  split at h
  next hr =>
    obtain rfl := Option.some.inj h
    refine ⟨by omega, ?_⟩
    rw [digit, if_neg (by omega), if_neg (by omega), if_pos (by omega), hc _ (by omega)]
  split at h
  next hplus =>
    obtain rfl := Option.some.inj h
    exact ⟨by decide, hplus.symm⟩
  split at h
  next hslash =>
    obtain rfl := Option.some.inj h
    exact ⟨by decide, hslash.symm⟩
  · cases h

/-- The filling is no digit. -/
theorem digit_ne_fill {n : Nat} (h : n < 64) : digit n ≠ '=' := by
  revert n
  decide

/-! ## Texts -/

theorem ofNat_eq {n : Nat} {b : UInt8} (h : n = b.toNat) : UInt8.ofNat n = b := by
  rw [h, UInt8.ofNat_toNat]

/-- What is encoded is decoded. -/
theorem decode_encode (bytes : List UInt8) : decode (encode bytes) = some bytes := by
  fun_induction encode bytes with
  | case1 => rfl
  | case2 a =>
    have ha := a.toNat_lt
    rw [decode, digitValue?_digit (by omega), digitValue?_digit (by omega)]
    simp only [Option.bind_eq_bind, Option.bind_some]
    rw [if_pos (by omega), ofNat_eq (b := a) (by omega)]
  | case3 a b =>
    have ha := a.toNat_lt
    have hb := b.toNat_lt
    rw [decode, digitValue?_digit (by omega), digitValue?_digit (by omega),
      digitValue?_digit (by omega)]
    · simp only [Option.bind_eq_bind, Option.bind_some]
      rw [if_pos (by omega), ofNat_eq (b := a) (by omega), ofNat_eq (b := b) (by omega)]
    · exact fun h ↦ digit_ne_fill (by omega) h
  | case4 a b c r ih =>
    have ha := a.toNat_lt
    have hb := b.toNat_lt
    have hc := c.toNat_lt
    rw [decode, digitValue?_digit (by omega), digitValue?_digit (by omega),
      digitValue?_digit (by omega), digitValue?_digit (by omega), ih]
    · simp only [Option.bind_eq_bind, Option.bind_some]
      rw [ofNat_eq (b := a) (by omega), ofNat_eq (b := b) (by omega), ofNat_eq (b := c) (by omega)]
    · exact fun h ↦ absurd h (digit_ne_fill (by omega))
    · exact fun h ↦ absurd h (digit_ne_fill (by omega))

theorem digit_eq {m n : Nat} {c : Char} (h : m = n) (hc : digit n = c) : digit m = c := h ▸ hc

theorem encode_of_decode {cs : List Char} {bytes : List UInt8} (h : decode cs = some bytes) :
    encode bytes = cs := by
  have hbyte {n : Nat} (hn : n < 256) : (UInt8.ofNat n).toNat = n := UInt8.toNat_ofNat_of_lt' hn
  fun_induction decode cs generalizing bytes with
  | case1 =>
    cases h
    rfl
  | case2 w x =>
    simp only [Option.bind_eq_bind, Option.bind_eq_some_iff] at h
    obtain ⟨m, hm, n, hn, h⟩ := h
    obtain ⟨hm, hw⟩ := of_digitValue? hm
    obtain ⟨hn, hx⟩ := of_digitValue? hn
    split at h
    next hzero =>
      cases h
      rw [encode, hbyte (by omega), digit_eq (by omega) hw, digit_eq (by omega) hx]
    next => cases h
  | case3 w x y =>
    simp only [Option.bind_eq_bind, Option.bind_eq_some_iff] at h
    obtain ⟨m, hm, n, hn, k, hk, h⟩ := h
    obtain ⟨hm, hw⟩ := of_digitValue? hm
    obtain ⟨hn, hx⟩ := of_digitValue? hn
    obtain ⟨hk, hy⟩ := of_digitValue? hk
    split at h
    next hzero =>
      cases h
      rw [encode, hbyte (by omega), hbyte (by omega), digit_eq (by omega) hw,
        digit_eq (by omega) hx, digit_eq (by omega) hy]
    next => cases h
  | case4 w x y z r _ _ ih =>
    simp only [Option.bind_eq_bind, Option.bind_eq_some_iff] at h
    obtain ⟨m, hm, n, hn, k, hk, l, hl, rest, hrest, h⟩ := h
    obtain ⟨hm, hw⟩ := of_digitValue? hm
    obtain ⟨hn, hx⟩ := of_digitValue? hn
    obtain ⟨hk, hy⟩ := of_digitValue? hk
    obtain ⟨hl, hz⟩ := of_digitValue? hl
    cases h
    rw [encode, hbyte (by omega), hbyte (by omega), hbyte (by omega), digit_eq (by omega) hw,
      digit_eq (by omega) hx, digit_eq (by omega) hy, digit_eq (by omega) hz, ih hrest]
  | case5 => cases h

/-- A text is decoded exactly if it is what its bytes are encoded as. -/
theorem decode_eq_some_iff {cs : List Char} {bytes : List UInt8} :
    decode cs = some bytes ↔ cs = encode bytes :=
  ⟨fun h ↦ (encode_of_decode h).symm, fun h ↦ h ▸ decode_encode bytes⟩

theorem encode_injective {a b : List UInt8} (h : encode a = encode b) : a = b :=
  Option.some.inj (by rw [← decode_encode a, h, decode_encode])

theorem encode_ne_nil {bytes : List UInt8} (h : bytes ≠ []) : encode bytes ≠ [] := by
  fun_cases encode bytes with
  | case1 => exact absurd rfl h
  | case2 => exact List.cons_ne_nil _ _
  | case3 => exact List.cons_ne_nil _ _
  | case4 => exact List.cons_ne_nil _ _

/-- An encoded text consists of visible characters of ASCII. -/
theorem visible_of_mem_encode {bytes : List UInt8} {c : Char} (h : c ∈ encode bytes) :
    0x20 < c.toNat ∧ c.toNat < 0x7F := by
  have hdigit {n : Nat} (hn : n < 64) : 0x20 < (digit n).toNat ∧ (digit n).toNat < 0x7F := by
    revert n
    decide
  fun_induction encode bytes with
  | case1 => cases h
  | case2 a =>
    have ha := a.toNat_lt
    simp only [List.mem_cons, List.not_mem_nil, or_false] at h
    rcases h with rfl | rfl | rfl | rfl
    · exact hdigit (by omega)
    · exact hdigit (by omega)
    · decide
    · decide
  | case3 a b =>
    have ha := a.toNat_lt
    have hb := b.toNat_lt
    simp only [List.mem_cons, List.not_mem_nil, or_false] at h
    rcases h with rfl | rfl | rfl | rfl
    · exact hdigit (by omega)
    · exact hdigit (by omega)
    · exact hdigit (by omega)
    · decide
  | case4 a b c r ih =>
    have ha := a.toNat_lt
    have hb := b.toNat_lt
    have hc := c.toNat_lt
    simp only [List.mem_cons] at h
    rcases h with rfl | rfl | rfl | rfl | h
    · exact hdigit (by omega)
    · exact hdigit (by omega)
    · exact hdigit (by omega)
    · exact hdigit (by omega)
    · exact ih h

end RecordGateway.Text.Base64
