import RecordGateway.Proofs.Json.Scanned
import RecordGateway.Proofs.Json.Spelling

/-!
# The spelling of what is read

Whatever is read as a text is spelled by the bytes that were read.  The bytes that stand as they
are and those that escapes stand for are put together first, and checked for UTF-8 as a whole.  No
escape stands for a part of a character only, so the bytes between escapes are characters too
(`Gives`).
-/

namespace RecordGateway.Json

variable {s r : List UInt8} {c : Char}

/-! ## One character -/

/-- What may stand behind a backslash, for a character. -/
inductive IsEscape (c : Char) : List UInt8 → Prop
  | letter {l} (hl : (l, c) ∈ escapeLetters) : IsEscape c [byte l]
  | unit {h} (hh : IsHex4 c.toNat h) : IsEscape c (byte 'u' :: h)
  | pair {n m h h'} (hn : 0xD800 ≤ n ∧ n ≤ 0xDBFF) (hm : 0xDC00 ≤ m ∧ m ≤ 0xDFFF)
      (hc : c.toNat = (n - 0xD800) * 0x400 + (m - 0xDC00) + 0x10000) (hh : IsHex4 n h)
      (hh' : IsHex4 m h') : IsEscape c (byte 'u' :: h ++ byte '\\' :: byte 'u' :: h')

theorem Spells.escape {cs : List Char} {t : List UInt8} (ht : IsEscape c t) (hs : Spells cs s) :
    Spells (c :: cs) (byte '\\' :: t ++ s) := by
  cases ht with
  | letter hl => exact .letter hl hs
  | unit hh => exact .unit hh hs
  | pair hn hm hc hh hh' => exact .pair hn hm hc hh hh' hs

theorem IsHex4.lt {n : Nat} {h : List UInt8} (hh : IsHex4 n h) : n < 0x10000 := by
  obtain ⟨ha, hb, hc, hd⟩ := hh
  simp only [IsHexDigit] at ha hb hc hd
  omega

theorem toNat_surrogatePair {n m : Nat} (hn : 0xD800 ≤ n ∧ n ≤ 0xDBFF)
    (hm : 0xDC00 ≤ m ∧ m ≤ 0xDFFF) :
    (surrogatePair n m).toNat = (n - 0xD800) * 0x400 + (m - 0xDC00) + 0x10000 := by
  refine Text.Utf8.toNat_ofNat (.inr ?_)
  omega

theorem of_readUnicode (h : readUnicode s = .ok (c, r)) :
    ∃ t, s = t ++ r ∧ IsEscape c (byte 'u' :: t) := by
  revert h
  fun_cases readUnicode s with
  | case1 | case2 | case4 | case5 | case6 | case8 | case9 | case10 =>
    intro h
    cases h
  | case3 n _ hn htrail halone =>
    rintro ⟨⟩
    obtain ⟨t, rfl, ht⟩ := of_readHex4 hn
    have hlt := ht.lt
    have hvalid : n < 0xD800 ∨ 0xDFFF < n ∧ n < 0x110000 := by omega
    rw [← Text.Utf8.toNat_ofNat hvalid] at ht
    exact ⟨t, rfl, .unit ht⟩
  | case7 n htrail halone _ m _ hm hpair hn =>
    intro h
    obtain ⟨rfl, rfl⟩ := Prod.mk.inj (Except.ok.inj h)
    obtain ⟨t, rfl, ht⟩ := of_readHex4 hn
    obtain ⟨t', rfl, ht'⟩ := of_readHex4 hm
    have hlead : 0xD800 ≤ n ∧ n ≤ 0xDBFF := by omega
    have hc := toNat_surrogatePair hlead hpair
    exact ⟨t ++ byte '\\' :: byte 'u' :: t', by simp, .pair hlead hpair hc ht ht'⟩

/-- An escape that is read stands for one character. -/
theorem of_readEscape {bytes : List UInt8} (h : readEscape s = .ok (bytes, r)) :
    ∃ c t, s = t ++ r ∧ IsEscape c t ∧ bytes = String.utf8EncodeChar c := by
  unfold readEscape at h
  split at h
  · cases h
  next l s =>
    split at h
    next b hb =>
      cases h
      obtain ⟨⟨l, c⟩, hp, rfl, rfl⟩ := of_escaped? hb
      exact ⟨c, [byte l], rfl, .letter hp, (utf8EncodeChar_of_mem _ hp).symm⟩
    next =>
      split at h
      next hu =>
        subst hu
        split at h
        · cases h
        next hr =>
          cases h
          obtain ⟨t, rfl, ht⟩ := of_readUnicode hr
          exact ⟨_, byte 'u' :: t, rfl, ht, rfl⟩
      next => cases h

/-! ## All characters -/

/-- The bytes that are read from what stands between quotes, before they are checked for UTF-8. -/
inductive Gives : List UInt8 → List UInt8 → Prop
  | nil : Gives [] []
  | raw {b bs s} (hquote : b ≠ byte '"') (hback : b ≠ byte '\\') (hcontrol : ¬b < 0x20)
      (hs : Gives bs s) : Gives (b :: bs) (b :: s)
  | escape {c t bs s} (ht : IsEscape c t) (hs : Gives bs s) :
      Gives (String.utf8EncodeChar c ++ bs) (byte '\\' :: t ++ s)

theorem of_readBytes {done bytes : List UInt8} (h : readBytes done s = .ok (bytes, r)) :
    ∃ bs t, bytes = done.reverse ++ bs ∧ s = t ++ byte '"' :: r ∧ Gives bs t := by
  fun_induction readBytes done s with
  | case1 | case3 | case5 => cases h
  | case2 =>
    cases h
    exact ⟨[], [], by rw [List.append_nil], rfl, .nil⟩
  | case4 done s _ _ hescape _ ih =>
    obtain ⟨c, t, rfl, ht, rfl⟩ := of_readEscape hescape
    obtain ⟨bs, u, rfl, rfl, hu⟩ := ih h
    exact ⟨_, _, by simp, by simp, .escape ht hu⟩
  | case6 done b s hquote hback hcontrol ih =>
    obtain ⟨bs, t, rfl, rfl, ht⟩ := ih h
    exact ⟨b :: bs, b :: t, by simp, rfl, .raw hquote hback hcontrol ht⟩

/-- Bytes with which no character begins come from no escape. -/
theorem Gives.exists_raw {bs bs' : List UInt8} (hbs : ∀ b ∈ bs, ¬b.IsUTF8FirstByte)
    (h : Gives (bs ++ bs') s) : ∃ s', s = bs ++ s' ∧ Gives bs' s' := by
  induction bs generalizing s with
  | nil => exact ⟨s, rfl, h⟩
  | cons b bs ih =>
    generalize hx : b :: bs ++ bs' = x at h
    cases h with
    | nil => cases hx
    | raw hquote hback hcontrol hs =>
      cases hx
      obtain ⟨s', rfl, hs'⟩ := ih (fun c hc ↦ hbs c (.tail _ hc)) hs
      exact ⟨s', rfl, hs'⟩
    | @escape c =>
      obtain ⟨d, ds, hd, hfirst, -⟩ := Text.Utf8.exists_cons_utf8EncodeChar c
      rw [hd] at hx
      obtain ⟨rfl, -⟩ := List.cons.inj hx
      exact absurd hfirst (hbs b (.head _))

/-- A character whose first byte may stand as it is. -/
theorem of_raw_utf8EncodeChar {b : UInt8} {bs : List UInt8}
    (h : String.utf8EncodeChar c = b :: bs) (hquote : b ≠ byte '"') (hback : b ≠ byte '\\')
    (hcontrol : ¬b < 0x20) : c ≠ '"' ∧ c ≠ '\\' ∧ 0x20 ≤ c.toNat := by
  refine ⟨?_, ?_, ?_⟩
  · rintro rfl
    cases h
    exact hquote rfl
  · rintro rfl
    cases h
    exact hback rfl
  · refine Nat.not_lt.1 fun hlt ↦ hcontrol ?_
    rw [Text.Utf8.utf8EncodeChar_of_lt (by omega)] at h
    cases h
    rw [UInt8.lt_iff_toNat_lt, UInt8.toNat_ofNat']
    exact Nat.lt_of_le_of_lt (Nat.mod_le _ _) hlt

/-- If what is read are the bytes of characters, then these are spelled. -/
theorem Gives.spells {cs : List Char} (h : Gives (cs.flatMap String.utf8EncodeChar) s) :
    Spells cs s := by
  induction cs generalizing s with
  | nil =>
    generalize hx : [].flatMap String.utf8EncodeChar = x at h
    cases h with
    | nil => exact .nil
    | raw => cases hx
    | @escape c =>
      obtain ⟨d, ds, hd, -⟩ := Text.Utf8.exists_cons_utf8EncodeChar c
      rw [hd] at hx
      cases hx
  | cons c cs ih =>
    rw [List.flatMap_cons] at h
    generalize hx : String.utf8EncodeChar c ++ cs.flatMap String.utf8EncodeChar = x at h
    obtain ⟨b, bs, hb, -, hbs⟩ := Text.Utf8.exists_cons_utf8EncodeChar c
    cases h with
    | nil =>
      rw [hb] at hx
      cases hx
    | raw hquote hback hcontrol hs =>
      rw [hb] at hx
      cases hx
      obtain ⟨s', rfl, hs'⟩ := hs.exists_raw hbs
      obtain ⟨hquote, hback, hcontrol⟩ := of_raw_utf8EncodeChar hb hquote hback hcontrol
      rw [← List.cons_append, ← hb]
      exact .raw hquote hback hcontrol (ih hs')
    | escape ht hs =>
      obtain ⟨rfl, rfl⟩ := Text.Utf8.utf8EncodeChar_append_inj hx
      exact .escape ht (ih hs)

/-- Whatever is read as a text is spelled up to the closing quote. -/
theorem of_readText {t : String} (h : readText s = .ok (t, r)) :
    ∃ u, s = u ++ byte '"' :: r ∧ Spells t.toList u := by
  unfold readText at h
  split at h
  · cases h
  next hbytes =>
    split at h
    · cases h
    next hdecode =>
      cases h
      obtain ⟨bs, u, rfl, rfl, hu⟩ := of_readBytes hbytes
      rw [Text.Utf8.decode_eq_some_iff, Text.Utf8.encode_eq_flatMap] at hdecode
      subst hdecode
      exact ⟨u, rfl, hu.spells⟩

/-! ## UTF-8 -/

theorem IsHexDigit.lt {n : Nat} {b : UInt8} (h : IsHexDigit n b) : b.toNat < 0x80 := by
  simp only [IsHexDigit] at h
  omega

theorem IsHex4.areWritten {n : Nat} {h : List UInt8} (hh : IsHex4 n h) :
    Text.Utf8.AreWritten (byte '\\' :: byte 'u' :: h) := by
  obtain ⟨ha, hb, hc, hd⟩ := hh
  refine Text.Utf8.areWritten_of_lt ?_
  simp only [List.mem_cons, List.not_mem_nil, or_false]
  rintro x (rfl | rfl | rfl | rfl | rfl | rfl)
  · decide
  · decide
  · exact ha.lt
  · exact hb.lt
  · exact hc.lt
  · exact hd.lt

theorem areWritten_of_mem_escapeLetters {p : Char × Char} (hp : p ∈ escapeLetters) :
    Text.Utf8.AreWritten [byte '\\', byte p.1] := by
  have hletters : ∀ p ∈ escapeLetters, (byte p.1).toNat < 0x80 := by decide
  refine Text.Utf8.areWritten_of_lt ?_
  simp only [List.mem_cons, List.not_mem_nil, or_false]
  rintro x (rfl | rfl)
  · decide
  · exact hletters p hp

/-- What spells characters is UTF-8 itself. -/
theorem Spells.areWritten {cs : List Char} (h : Spells cs s) : Text.Utf8.AreWritten s := by
  induction h with
  | nil => exact ⟨[], rfl⟩
  | raw _ _ _ _ ih => exact (Text.Utf8.areWritten_utf8EncodeChar _).append ih
  | letter hl _ ih => exact (areWritten_of_mem_escapeLetters hl).append ih
  | unit hh _ ih => exact hh.areWritten.append ih
  | pair _ _ _ hh hh' _ ih => exact (hh.areWritten.append hh'.areWritten).append ih

/-- A text in quotes is UTF-8, however it is spelled. -/
theorem IsText.exists_decode {t : String} (h : IsText t s) :
    ∃ u, Text.Utf8.decode s = some u := by
  obtain ⟨hs⟩ := h
  have hquote : Text.Utf8.AreWritten [byte '"'] :=
    Text.Utf8.areWritten_of_lt (List.forall_mem_singleton.2 (by decide))
  exact ((hquote.append hs.areWritten).append hquote).exists_decode

end RecordGateway.Json
