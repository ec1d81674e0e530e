import RecordGateway.Text.Encoding

/-!
# The bytes of characters

A text is written as the bytes of its characters one after the other.  The characters of ASCII are
written as one byte each, and no byte of any other character is one of ASCII.  Texts are ordered as
their bytes are.
-/

namespace RecordGateway.Text.Utf8

/-- A text is written character by character. -/
theorem encode_eq_flatMap (s : String) : encode s = s.toList.flatMap String.utf8EncodeChar := by
  have h : (String.ofList s.toList).toByteArray.data.toList
      = s.toList.flatMap String.utf8EncodeChar := by
    rw [String.toByteArray_ofList, List.utf8Encode, List.toList_data_toByteArray]
  rwa [String.ofList_toList] at h

theorem encode_append (s t : String) : encode (s ++ t) = encode s ++ encode t := by
  rw [encode_eq_flatMap, String.toList_append, List.flatMap_append, ← encode_eq_flatMap,
    ← encode_eq_flatMap]

/-- The bytes of characters are read back as a text. -/
theorem decode_flatMap (cs : List Char) :
    decode (cs.flatMap String.utf8EncodeChar) = some (String.ofList cs) := by
  rw [decode_eq_some_iff, encode_eq_flatMap, String.toList_ofList]

/-- A byte of a character is the character's number, or none of ASCII. -/
theorem of_mem_utf8EncodeChar {c : Char} {b : UInt8} (h : b ∈ String.utf8EncodeChar c) :
    c.toNat = b.toNat ∨ 0x80 ≤ b.toNat := by
  have hc : c.val.toNat = c.toNat := rfl
  simp only [String.utf8EncodeChar] at h
  split at h
  next hle =>
    left
    rw [List.mem_singleton.1 h, UInt8.toNat_ofNat']
    omega
  next =>
    right
    split at h
    · simp only [List.mem_cons, List.not_mem_nil, or_false] at h
      rcases h with rfl | rfl <;> rw [UInt8.toNat_ofNat'] <;> omega
    split at h
    · simp only [List.mem_cons, List.not_mem_nil, or_false] at h
      rcases h with rfl | rfl | rfl <;> rw [UInt8.toNat_ofNat'] <;> omega
    · simp only [List.mem_cons, List.not_mem_nil, or_false] at h
      rcases h with rfl | rfl | rfl | rfl <;> rw [UInt8.toNat_ofNat'] <;> omega

theorem toNat_ofNat {n : Nat} (h : n.isValidChar) : (Char.ofNat n).toNat = n := by
  rw [Char.ofNat, dif_pos h]
  rfl

/-- A character of ASCII is written as its number. -/
theorem utf8EncodeChar_of_lt {c : Char} (h : c.toNat < 0x80) :
    String.utf8EncodeChar c = [UInt8.ofNat c.toNat] := by
  have hc : c.val.toNat = c.toNat := rfl
  simp only [String.utf8EncodeChar]
  rw [if_pos (by omega)]
  rfl

theorem flatMap_utf8EncodeChar_of_lt {cs : List Char} (h : ∀ c ∈ cs, c.toNat < 0x80) :
    cs.flatMap String.utf8EncodeChar = cs.map fun c ↦ UInt8.ofNat c.toNat := by
  induction cs with
  | nil => rfl
  | cons c cs ih =>
    rw [List.flatMap_cons, utf8EncodeChar_of_lt (h c (.head _)), ih fun e he ↦ h e (.tail _ he)]
    rfl

/-- A text of ASCII is written as the numbers of its characters. -/
theorem encode_of_lt {s : String} (h : ∀ c ∈ s.toList, c.toNat < 0x80) :
    encode s = s.toList.map fun c ↦ UInt8.ofNat c.toNat := by
  rw [encode_eq_flatMap, flatMap_utf8EncodeChar_of_lt h]

/-! ## Bytes of texts -/

/-- Bytes that some text is written as. -/
def AreWritten (s : List UInt8) : Prop := ∃ cs : List Char, s = cs.flatMap String.utf8EncodeChar

theorem AreWritten.exists_decode {s : List UInt8} (h : AreWritten s) : ∃ t, decode s = some t := by
  obtain ⟨cs, rfl⟩ := h
  exact ⟨_, decode_flatMap cs⟩

theorem AreWritten.append {s t : List UInt8} (hs : AreWritten s) (ht : AreWritten t) :
    AreWritten (s ++ t) := by
  obtain ⟨cs, rfl⟩ := hs
  obtain ⟨ds, rfl⟩ := ht
  exact ⟨cs ++ ds, List.flatMap_append.symm⟩

theorem areWritten_utf8EncodeChar (c : Char) : AreWritten (String.utf8EncodeChar c) :=
  ⟨[c], (List.flatMap_singleton ..).symm⟩

/-- Bytes of ASCII are written for themselves. -/
theorem areWritten_of_lt {s : List UInt8} (h : ∀ b ∈ s, b.toNat < 0x80) : AreWritten s := by
  induction s with
  | nil => exact ⟨[], rfl⟩
  | cons b s ih =>
    have hb := h b (.head _)
    have hc : (Char.ofNat b.toNat).toNat = b.toNat := toNat_ofNat (.inl (by omega))
    have hwritten := areWritten_utf8EncodeChar (Char.ofNat b.toNat)
    rw [utf8EncodeChar_of_lt (by rwa [hc]), hc, UInt8.ofNat_toNat] at hwritten
    exact hwritten.append (ih fun c hc ↦ h c (.tail _ hc))

/-! ## Where characters begin -/

/-- Of the bytes of a character the first one, and no other, may begin a character. -/
theorem exists_cons_utf8EncodeChar (c : Char) :
    ∃ b bs, String.utf8EncodeChar c = b :: bs ∧ b.IsUTF8FirstByte ∧
      ∀ x ∈ bs, ¬x.IsUTF8FirstByte := by
  have hfirst (i : Nat) (hi : i < (String.utf8EncodeChar c).length) :=
    @UInt8.isUTF8FirstByte_getElem_utf8EncodeChar c i hi
  cases h : String.utf8EncodeChar c with
  | nil =>
    have hpos := c.utf8Size_pos
    rw [← String.length_utf8EncodeChar, h] at hpos
    cases hpos
  | cons b bs =>
    simp only [h] at hfirst
    refine ⟨b, bs, rfl, (hfirst 0 (by simp)).2 rfl, fun x hx ↦ ?_⟩
    obtain ⟨i, hi, rfl⟩ := List.getElem_of_mem hx
    have hnext := hfirst (i + 1) (by simpa using hi)
    rw [List.getElem_cons_succ] at hnext
    rw [hnext]
    exact Nat.succ_ne_zero i

/-- Where a character begins, it can be told which one. -/
theorem utf8EncodeChar_append_inj {c d : Char} {s t : List UInt8}
    (h : String.utf8EncodeChar c ++ s = String.utf8EncodeChar d ++ t) : c = d ∧ s = t := by
  have hdecode (c : Char) (s : List UInt8) :=
    ByteArray.utf8DecodeChar?_utf8EncodeChar_append (b := s.toByteArray) (c := c)
  have heq := hdecode c s
  rw [← List.toByteArray_append, h, List.toByteArray_append, hdecode d t] at heq
  cases heq
  exact ⟨rfl, List.append_cancel_left h⟩

/-- Characters whose first byte is one of ASCII begin with its character. -/
theorem exists_cons_of_flatMap {c : Char} (hc : c.toNat < 0x80) {cs : List Char} {s : List UInt8}
    (h : cs.flatMap String.utf8EncodeChar = UInt8.ofNat c.toNat :: s) :
    ∃ ds, cs = c :: ds ∧ ds.flatMap String.utf8EncodeChar = s := by
  cases cs with
  | nil => cases h
  | cons d ds =>
    rw [List.flatMap_cons, ← List.singleton_append, ← utf8EncodeChar_of_lt hc] at h
    obtain ⟨rfl, hs⟩ := utf8EncodeChar_append_inj h
    exact ⟨ds, rfl, hs⟩

/-- Characters whose last byte is one of ASCII end with its character. -/
theorem exists_concat_of_flatMap {c : Char} (hc : c.toNat < 0x80) {cs : List Char} {s : List UInt8}
    (h : cs.flatMap String.utf8EncodeChar = s ++ [UInt8.ofNat c.toNat]) :
    ∃ ds, cs = ds ++ [c] ∧ ds.flatMap String.utf8EncodeChar = s := by
  obtain rfl | ⟨ds, d, rfl⟩ := cs.eq_nil_or_concat
  · cases s <;> cases h
  rw [List.concat_eq_append, List.flatMap_append, List.flatMap_singleton] at h
  obtain ⟨b, bs, hd, -⟩ := exists_cons_utf8EncodeChar d
  have hlast : UInt8.ofNat c.toNat ∈ String.utf8EncodeChar d := by
    have hlast := congrArg List.getLast? h
    rw [List.getLast?_append, List.getLast?_concat, hd, List.getLast?_cons, Option.some_or,
      ← List.getLast?_cons, ← hd] at hlast
    exact List.mem_of_getLast? hlast
  have hbyte : (UInt8.ofNat c.toNat).toNat = c.toNat :=
    UInt8.toNat_ofNat_of_lt' (Nat.lt_trans hc (by decide))
  -- a byte of ASCII is in no character but its own
  obtain rfl : d = c := by
    rcases of_mem_utf8EncodeChar hlast with heq | hge
    · exact Char.toNat_inj.1 (heq.trans hbyte)
    · omega
  rw [utf8EncodeChar_of_lt hc] at h
  exact ⟨ds, List.concat_eq_append, List.append_cancel_right h⟩

/-! ## The order of bytes -/

/-- A lesser character is written as lesser bytes, whatever follows. -/
theorem utf8EncodeChar_append_lt {c d : Char} (h : c < d) (s t : List UInt8) :
    String.utf8EncodeChar c ++ s < String.utf8EncodeChar d ++ t := by
  have hlt : c.val.toNat < d.val.toNat := h
  have hvalid : d.val.toNat < 0x110000 := by
    rcases d.valid with h | h
    · exact Nat.lt_trans h (by decide)
    · exact h.2
  have hless (a b : Nat) : UInt8.ofNat a < UInt8.ofNat b ↔ a % 256 < b % 256 := by
    rw [UInt8.lt_iff_toNat_lt, UInt8.toNat_ofNat', UInt8.toNat_ofNat']
  have hsame (a b : Nat) : UInt8.ofNat a = UInt8.ofNat b ↔ a % 256 = b % 256 := by
    rw [← UInt8.toNat_inj, UInt8.toNat_ofNat', UInt8.toNat_ofNat']
  -- the six bits of each byte are taken off one after the other
  have hdiv (n : Nat) : n / 4096 = n / 64 / 64 := (Nat.div_div_eq_div_mul n 64 64).symm
  have hdiv' (n : Nat) : n / 262144 = n / 64 / 64 / 64 := by
    rw [Nat.div_div_eq_div_mul, Nat.div_div_eq_div_mul]
  simp only [String.utf8EncodeChar, hdiv, hdiv']
  generalize c.val.toNat = m at *
  generalize d.val.toNat = n at *
  repeat' split
  all_goals
    simp only [List.cons_append, List.nil_append, List.cons_lt_cons_iff, hless, hsame]
    omega

theorem flatMap_utf8EncodeChar_lt {cs ds : List Char} (h : cs < ds) :
    cs.flatMap String.utf8EncodeChar < ds.flatMap String.utf8EncodeChar := by
  induction cs generalizing ds with
  | nil =>
    cases ds with
    | nil => exact absurd h (List.lt_irrefl _)
    | cons d ds =>
      obtain ⟨b, bs, hb, -⟩ := exists_cons_utf8EncodeChar d
      rw [List.flatMap_cons, hb]
      exact List.nil_lt_cons ..
  | cons c cs ih =>
    cases ds with
    | nil => exact absurd h (List.not_lt_nil _)
    | cons d ds =>
      rw [List.flatMap_cons, List.flatMap_cons]
      rcases List.cons_lt_cons_iff.1 h with hlt | ⟨rfl, hlt⟩
      · exact utf8EncodeChar_append_lt hlt _ _
      · exact List.append_left_lt (ih hlt)

theorem encode_injective {s t : String} (h : encode s = encode t) : s = t :=
  Option.some.inj (by rw [← decode_encode s, h, decode_encode])

/-- Texts are ordered as their bytes are. -/
theorem encode_lt_encode_iff {s t : String} : encode s < encode t ↔ s < t := by
  have hmono {s t : String} (h : s < t) : encode s < encode t := by
    rw [encode_eq_flatMap, encode_eq_flatMap]
    exact flatMap_utf8EncodeChar_lt (String.lt_iff.1 h)
  refine ⟨fun h ↦ Decidable.byContradiction fun hst ↦ ?_, hmono⟩
  rcases Std.le_iff_lt_or_eq.1 (Std.not_lt.1 hst) with hts | rfl
  · exact List.lt_irrefl _ (List.lt_trans h (hmono hts))
  · exact List.lt_irrefl _ h

end RecordGateway.Text.Utf8
