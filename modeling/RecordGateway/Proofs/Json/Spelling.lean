import RecordGateway.Json.Text
import RecordGateway.Proofs.Json.Scanning
import RecordGateway.Proofs.Text.Utf8

/-!
# Reading texts

A text is read from any bytes that spell it.
-/

namespace RecordGateway.Json

variable {s : List UInt8}

/-! ## One character -/

theorem readUnicode_append {c : Char} {h : List UInt8} (hh : IsHex4 c.toNat h)
    (rest : List UInt8) : readUnicode (h ++ rest) = .ok (c, rest) := by
  have hvalid : c.toNat < 0xD800 ∨ 0xDFFF < c.toNat ∧ c.toNat < 0x110000 := c.valid
  have htrail : ¬(0xDC00 ≤ c.toNat ∧ c.toNat ≤ 0xDFFF) := by omega
  have halone : c.toNat < 0xD800 ∨ 0xDBFF < c.toNat := by omega
  simp only [readUnicode, readHex4_append hh, if_neg htrail, if_pos halone, Char.ofNat_toNat]

theorem readUnicode_append_pair {c : Char} {n m : Nat} {h h' : List UInt8}
    (hn : 0xD800 ≤ n ∧ n ≤ 0xDBFF) (hm : 0xDC00 ≤ m ∧ m ≤ 0xDFFF)
    (hc : c.toNat = (n - 0xD800) * 0x400 + (m - 0xDC00) + 0x10000) (hh : IsHex4 n h)
    (hh' : IsHex4 m h') (rest : List UInt8) :
    readUnicode (h ++ byte '\\' :: byte 'u' :: h' ++ rest) = .ok (c, rest) := by
  have htrail : ¬(0xDC00 ≤ n ∧ n ≤ 0xDFFF) := by omega
  have halone : ¬(n < 0xD800 ∨ 0xDBFF < n) := by omega
  have hpair : surrogatePair n m = c := by rw [surrogatePair, ← hc, Char.ofNat_toNat]
  rw [List.append_assoc]
  simp only [readUnicode, readHex4_append hh, readHex4_append hh', if_neg htrail, if_neg halone,
    if_pos hm, if_true, List.cons_append, hpair]

theorem readEscape_unicode {s r : List UInt8} {c : Char} (h : readUnicode s = .ok (c, r)) :
    readEscape (byte 'u' :: s) = .ok (String.utf8EncodeChar c, r) := by
  have hletter : escaped? (byte 'u') = none := by decide
  simp only [readEscape, hletter, if_true, h]

theorem utf8EncodeChar_of_mem :
    ∀ p ∈ escapeLetters, String.utf8EncodeChar p.2 = [byte p.2] := by
  decide

theorem readEscape_letter {l c : Char} (h : (l, c) ∈ escapeLetters) (s : List UInt8) :
    readEscape (byte l :: s) = .ok (String.utf8EncodeChar c, s) := by
  have hescaped := escaped?_of_mem _ h
  have hencode := utf8EncodeChar_of_mem _ h
  simp only [readEscape, hescaped, hencode]

/-- No byte of a character that may stand as it is means anything else in a text. -/
theorem raw_of_mem_utf8EncodeChar {c : Char} (hquote : c ≠ '"') (hback : c ≠ '\\')
    (hcontrol : 0x20 ≤ c.toNat) {b : UInt8} (hb : b ∈ String.utf8EncodeChar c) :
    b ≠ byte '"' ∧ b ≠ byte '\\' ∧ ¬b < 0x20 := by
  rcases Text.Utf8.of_mem_utf8EncodeChar hb with h | h
  · refine ⟨?_, ?_, ?_⟩
    · rintro rfl
      exact hquote (Char.toNat_inj.1 h)
    · rintro rfl
      exact hback (Char.toNat_inj.1 h)
    · rw [UInt8.lt_iff_toNat_lt, ← h]
      exact Nat.not_lt.2 hcontrol
  · refine ⟨?_, ?_, ?_⟩
    · rintro rfl
      revert h
      decide
    · rintro rfl
      revert h
      decide
    · rw [UInt8.lt_iff_toNat_lt]
      exact Nat.not_lt.2 (Nat.le_trans (by decide) h)

/-! ## All characters -/

theorem readBytes_quote (done rest : List UInt8) :
    readBytes done (byte '"' :: rest) = .ok (done.reverse, rest) := by
  rw [readBytes, if_pos rfl]

theorem readBytes_escape {s r bytes : List UInt8} (h : readEscape s = .ok (bytes, r))
    (done : List UInt8) :
    readBytes done (byte '\\' :: s) = readBytes (bytes.reverse ++ done) r := by
  rw [readBytes, if_neg (by decide), if_pos rfl]
  split
  next h' => rw [h] at h'; cases h'
  next h' => rw [h] at h'; cases h'; rfl

theorem readBytes_raw {bs : List UInt8}
    (hbs : ∀ b ∈ bs, b ≠ byte '"' ∧ b ≠ byte '\\' ∧ ¬b < 0x20) (done s : List UInt8) :
    readBytes done (bs ++ s) = readBytes (bs.reverse ++ done) s := by
  induction bs generalizing done with
  | nil => rfl
  | cons b bs ih =>
    obtain ⟨hquote, hback, hcontrol⟩ := hbs b (.head _)
    rw [List.cons_append, readBytes, if_neg hquote, if_neg hback, if_neg hcontrol,
      ih fun c hc ↦ hbs c (.tail _ hc)]
    simp

/-- What is read up to the closing quote are the bytes of the characters that were spelled. -/
theorem readBytes_append {cs : List Char} (hs : Spells cs s) (done rest : List UInt8) :
    readBytes done (s ++ byte '"' :: rest)
      = .ok (done.reverse ++ cs.flatMap String.utf8EncodeChar, rest) := by
  induction hs generalizing done with
  | nil => simp [readBytes_quote]
  | raw hquote hback hcontrol _ ih =>
    rw [List.append_assoc,
      readBytes_raw (fun b hb ↦ raw_of_mem_utf8EncodeChar hquote hback hcontrol hb), ih]
    simp
  | letter hl _ ih =>
    rw [List.cons_append, List.cons_append, readBytes_escape (readEscape_letter hl _), ih]
    simp
  | unit hh _ ih =>
    simp only [List.append_assoc, List.cons_append]
    rw [readBytes_escape (readEscape_unicode (readUnicode_append hh _)), ih]
    simp
  | pair hn hm hc hh hh' _ ih =>
    have hpair := readUnicode_append_pair hn hm hc hh hh'
    simp only [List.append_assoc, List.cons_append] at hpair ⊢
    rw [readBytes_escape (readEscape_unicode (hpair _)), ih]
    simp

/-- A text is read from any bytes that spell it. -/
theorem readText_append {t : String} (hs : Spells t.toList s) (rest : List UInt8) :
    readText (s ++ byte '"' :: rest) = .ok (t, rest) := by
  rw [readText, readBytes_append hs]
  simp only [List.reverse_nil, List.nil_append, Text.Utf8.decode_flatMap, String.ofList_toList]

/-! ## Plain texts -/

/-- Characters that may stand as they are spell themselves. -/
theorem spells_plain {cs : List Char} (h : ∀ c ∈ cs, c ≠ '"' ∧ c ≠ '\\' ∧ 0x20 ≤ c.toNat) :
    Spells cs (cs.flatMap String.utf8EncodeChar) := by
  induction cs with
  | nil => exact .nil
  | cons c cs ih =>
    obtain ⟨hquote, hback, hcontrol⟩ := h c (.head _)
    rw [List.flatMap_cons]
    exact .raw hquote hback hcontrol (ih fun e he ↦ h e (.tail _ he))

theorem isText_plain {t : String} (h : ∀ c ∈ t.toList, c ≠ '"' ∧ c ≠ '\\' ∧ 0x20 ≤ c.toNat) :
    IsText t (byte '"' :: Text.Utf8.encode t ++ [byte '"']) := by
  rw [Text.Utf8.encode_eq_flatMap]
  exact .mk (spells_plain h)

theorem isKey_plain {k : String} (h : ∀ c ∈ k.toList, c ≠ '"' ∧ c ≠ '\\' ∧ 0x20 ≤ c.toNat) :
    IsKey k (byte '"' :: Text.Utf8.encode k ++ [byte '"'] ++ [] ++ [byte ':']) :=
  .mk (isText_plain h) isBlanks_nil isBlanks_nil

end RecordGateway.Json
