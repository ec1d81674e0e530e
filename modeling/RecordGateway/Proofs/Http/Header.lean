import RecordGateway.Http.Header
import RecordGateway.Proofs.Text.Blank
import RecordGateway.Proofs.Text.Utf8

/-!
# Lines in header values

A header value is read as a line exactly if it is the bytes of a line of visible ASCII, spaces and
tabs.  The blanks of such a line are its spaces and tabs, and every run of other characters is a
word.
-/

namespace RecordGateway.Http

/-- Visible ASCII, spaces and tabs. -/
def IsReadable (cs : List Char) : Prop := ∀ c ∈ cs, c = '\t' ∨ 0x20 ≤ c.toNat ∧ c.toNat < 0x7F

/-- Spaces and tabs. -/
def IsPadding (cs : List Char) : Prop := ∀ c ∈ cs, c = ' ' ∨ c = '\t'

/-- Visible characters of ASCII, at least one. -/
def IsWord (cs : List Char) : Prop := cs ≠ [] ∧ ∀ c ∈ cs, 0x20 < c.toNat ∧ c.toNat < 0x7F

-- Texts that are written out are seen to be padding or words by `decide`.
instance (cs : List Char) : Decidable (IsPadding cs) :=
  List.decidableBAll (fun c ↦ c = ' ' ∨ c = '\t') cs

instance (cs : List Char) : Decidable (IsWord cs) :=
  haveI := List.decidableBAll (fun c ↦ 0x20 < c.toNat ∧ c.toNat < 0x7F) cs
  instDecidableAnd

/-- The bytes that a line is sent as. -/
def lineBytes (line : List Char) : List UInt8 := Text.Utf8.encode (String.ofList line)

theorem isTextByte_iff {b : UInt8} :
    isTextByte b = true ↔ b = 0x09 ∨ 0x20 ≤ b.toNat ∧ b.toNat < 0x7F := by
  simp [isTextByte, UInt8.le_iff_toNat_le, UInt8.lt_iff_toNat_lt]

theorem IsReadable.lineBytes_eq {line : List Char} (h : IsReadable line) :
    lineBytes line = line.map fun c ↦ UInt8.ofNat c.toNat := by
  have hlt : ∀ c ∈ line, c.toNat < 0x80 := by
    intro c hc
    rcases h c hc with rfl | hc
    · decide
    · omega
  rw [lineBytes, Text.Utf8.encode_of_lt (by rwa [String.toList_ofList]), String.toList_ofList]

/-- A header value is read as a line exactly if it is the bytes of the line, all of which can be
read. -/
theorem readValue?_eq_some_iff {value : List UInt8} {line : List Char} :
    readValue? value = some line ↔ IsReadable line ∧ value = lineBytes line := by
  unfold readValue?
  constructor
  · intro h
    split at h
    next hall =>
      obtain rfl := Option.some.inj h
      rw [List.all_eq_true] at hall
      have hchar (b : UInt8) : (Char.ofNat b.toNat).toNat = b.toNat :=
        Text.Utf8.toNat_ofNat (.inl (Nat.lt_trans b.toNat_lt (by decide)))
      have hread : IsReadable (value.map fun b ↦ Char.ofNat b.toNat) := by
        intro c hc
        obtain ⟨b, hb, rfl⟩ := List.mem_map.1 hc
        rw [hchar]
        rcases isTextByte_iff.1 (hall b hb) with rfl | hb
        · exact .inl rfl
        · exact .inr hb
      refine ⟨hread, ?_⟩
      rw [hread.lineBytes_eq, List.map_map]
      simp [Function.comp_def, hchar]
    next => cases h
  · rintro ⟨hread, rfl⟩
    have hbyte : ∀ c ∈ line, (UInt8.ofNat c.toNat).toNat = c.toNat := by
      intro c hc
      refine UInt8.toNat_ofNat_of_lt' ?_
      rcases hread c hc with rfl | hc
      · decide
      · exact Nat.lt_trans hc.2 (by decide)
    have hall : (line.map fun c ↦ UInt8.ofNat c.toNat).all isTextByte = true := by
      rw [List.all_eq_true]
      intro b hb
      obtain ⟨c, hc, rfl⟩ := List.mem_map.1 hb
      rw [isTextByte_iff, hbyte c hc]
      exact (hread c hc).imp (fun h ↦ by rw [h]; rfl) id
    have hback : (line.map fun c ↦ UInt8.ofNat c.toNat).map (fun b ↦ Char.ofNat b.toNat)
        = line := by
      rw [List.map_map]
      refine (List.map_congr_left fun c hc ↦ ?_).trans (List.map_id line)
      rw [Function.comp_apply, hbyte c hc, Char.ofNat_toNat]
      rfl
    rw [hread.lineBytes_eq, if_pos hall, hback]

theorem of_mem_readValue? {value : List UInt8} {line : List Char} (h : readValue? value = some line)
    {b : UInt8} (hb : b ∈ value) : b = 0x09 ∨ 0x20 ≤ b.toNat ∧ b.toNat < 0x7F := by
  unfold readValue? at h
  split at h
  next hall => exact isTextByte_iff.1 (List.all_eq_true.1 hall b hb)
  next => cases h

theorem IsPadding.areBlank {cs : List Char} (h : IsPadding cs) : Text.AreBlank cs := by
  intro c hc
  rcases h c hc with rfl | rfl <;> decide

theorem isPadding_of_areBlank {cs : List Char} (hblank : Text.AreBlank cs)
    (hread : IsReadable cs) : IsPadding cs := by
  intro c hc
  rcases hread c hc with rfl | ⟨hlow, hhigh⟩
  · exact .inr rfl
  · have hnumber : c.toNat = ' '.toNat := by
      have hb := hblank c hc
      simp only [Text.isBlank, Bool.or_eq_true, Bool.and_eq_true, decide_eq_true_eq,
        beq_iff_eq] at hb
      change c.toNat = 0x20
      omega
    exact .inl (Char.toNat_inj.1 hnumber)

theorem IsWord.not_isBlank {cs : List Char} (h : IsWord cs) {c : Char} (hc : c ∈ cs) :
    Text.isBlank c = false := by
  obtain ⟨hlow, hhigh⟩ := h.2 c hc
  rw [Bool.eq_false_iff]
  simp only [Text.isBlank, Ne, Bool.or_eq_true, Bool.and_eq_true, decide_eq_true_eq, beq_iff_eq]
  omega

theorem IsWord.isReadable {cs : List Char} (h : IsWord cs) : IsReadable cs :=
  fun c hc ↦ .inr ⟨Nat.le_of_lt (h.2 c hc).1, (h.2 c hc).2⟩

theorem IsPadding.isReadable {cs : List Char} (h : IsPadding cs) : IsReadable cs := by
  intro c hc
  rcases h c hc with rfl | rfl
  · exact .inr (by decide)
  · exact .inl rfl

theorem IsWord.isTight {cs : List Char} (h : IsWord cs) : Text.IsTight cs :=
  ⟨fun _ hc ↦ h.not_isBlank (List.mem_of_mem_head? hc),
    fun _ hc ↦ h.not_isBlank (List.mem_of_mem_getLast? hc)⟩

end RecordGateway.Http
