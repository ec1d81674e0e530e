import Mathlib.Computability.RegularExpressions
import RecordGateway.Proofs.Json.Numbers
import RecordGateway.Proofs.Record.Basic
import RecordGateway.Text.Basic

/-!
# Identifiers as a pattern

Identifiers are what the regular expression `[A-Za-z]+[0-9]?` matches as a whole.  They can be
recognised by their bytes: as bytes of ASCII stand for themselves and in no other character, bytes
are taken exactly if they are those of an identifier.
-/

namespace RecordGateway.Identifier

open Json (latin toNat_latin map_latin_encode)

variable {s : String} {c : Char} {cs word : List Char} {bytes : List UInt8}

/-! ## The regular expression -/

/-- The letters of ASCII. -/
def letters : List Char := "ABCDEFGHIJKLMNOPQRSTUVWXYZabcdefghijklmnopqrstuvwxyz".toList

/-- The digits of ASCII. -/
def digits : List Char := "0123456789".toList

/-- One of some characters. -/
def oneOf (cs : List Char) : RegularExpression Char := (cs.map .char).foldr (· + ·) 0

/-- A letter, more letters, and then nothing or a digit. -/
def pattern : RegularExpression Char := oneOf letters * (oneOf letters).star * (1 + oneOf digits)

theorem mem_matches'_oneOf : word ∈ (oneOf cs).matches' ↔ ∃ c ∈ cs, word = [c] := by
  induction cs with
  | nil => simp [oneOf, Language.notMem_zero]
  | cons c cs ih =>
    have hcons : (oneOf (c :: cs)).matches' = {[c]} + (oneOf cs).matches' := rfl
    have hsingleton : word ∈ ({[c]} : Language Char) ↔ word = [c] := Iff.rfl
    rw [hcons, Language.mem_add, ih, hsingleton]
    simp

theorem mem_matches'_star_oneOf :
    word ∈ (oneOf cs).star.matches' ↔ ∀ c ∈ word, c ∈ cs := by
  rw [RegularExpression.matches'_star, Language.mem_kstar]
  constructor
  · rintro ⟨words, rfl, hwords⟩ c hc
    obtain ⟨word, hword, hc⟩ := List.mem_flatten.1 hc
    obtain ⟨e, he, rfl⟩ := mem_matches'_oneOf.1 (hwords word hword)
    rwa [List.mem_singleton.1 hc]
  · intro h
    refine ⟨word.map fun c ↦ [c], (List.flatMap_singleton' word).symm, fun w hw ↦ ?_⟩
    obtain ⟨c, hc, rfl⟩ := List.mem_map.1 hw
    exact mem_matches'_oneOf.2 ⟨c, h c hc, rfl⟩

/-- What the pattern matches: letters, at least one, and then nothing or a digit. -/
theorem mem_matches'_pattern :
    word ∈ pattern.matches' ↔ ∃ run tail, word = run ++ tail ∧ run ≠ [] ∧
      (∀ c ∈ run, c ∈ letters) ∧ (tail = [] ∨ ∃ d ∈ digits, tail = [d]) := by
  simp only [pattern, RegularExpression.matches'_mul, RegularExpression.matches'_add,
    RegularExpression.matches'_epsilon, Language.mem_mul, Language.mem_add, Language.mem_one,
    mem_matches'_oneOf, mem_matches'_star_oneOf]
  constructor
  · rintro ⟨_, ⟨_, ⟨c, hc, rfl⟩, cs, hcs, rfl⟩, tail, htail, rfl⟩
    exact ⟨c :: cs, tail, rfl, List.cons_ne_nil c cs, List.forall_mem_cons.2 ⟨hc, hcs⟩, htail⟩
  · rintro ⟨run, tail, rfl, hne, hrun, htail⟩
    obtain ⟨c, cs, rfl⟩ := List.exists_cons_of_ne_nil hne
    obtain ⟨hc, hcs⟩ := List.forall_mem_cons.1 hrun
    exact ⟨c :: cs, ⟨[c], ⟨c, hc, rfl⟩, cs, hcs, rfl⟩, tail, htail, rfl⟩

/-! ## The letters and digits of ASCII -/

theorem isAlpha_iff_toNat :
    c.isAlpha = true ↔ 0x41 ≤ c.toNat ∧ c.toNat ≤ 0x5A ∨ 0x61 ≤ c.toNat ∧ c.toNat ≤ 0x7A := by
  unfold Char.isAlpha Char.isUpper Char.isLower
  simp [UInt32.le_iff_toNat_le]

theorem lt_of_isAlphanum (h : c.isAlphanum = true) : c.toNat < 0x80 := by
  rw [Char.isAlphanum, Bool.or_eq_true, isAlpha_iff_toNat] at h
  rcases h with h | h
  · omega
  · exact Json.lt_of_isDigit h

/-- What holds of the characters of ASCII, one after the other, holds of each of them. -/
theorem of_forall_lt {p : Char → Prop} (h : ∀ n < 0x80, p (Char.ofNat n)) (hc : c.toNat < 0x80) :
    p c := by
  have hp := h c.toNat hc
  rwa [Char.ofNat_toNat] at hp

theorem isBlank_of_isAlphanum (h : c.isAlphanum = true) : Text.isBlank c = false :=
  of_forall_lt (p := fun c ↦ c.isAlphanum = true → Text.isBlank c = false) (by decide +kernel)
    (lt_of_isAlphanum h) h

theorem not_isAlpha_of_isDigit (h : c.isDigit = true) : c.isAlpha = false :=
  of_forall_lt (p := fun c ↦ c.isDigit = true → c.isAlpha = false) (by decide +kernel)
    (Json.lt_of_isDigit h) h

theorem mem_letters_iff : c ∈ letters ↔ c.isAlpha = true := by
  have hletters : letters.all Char.isAlpha = true := by decide
  refine ⟨List.all_eq_true.1 hletters c, fun h ↦ ?_⟩
  have hlt : c.toNat < 0x80 := lt_of_isAlphanum (by rw [Char.isAlphanum, h, Bool.true_or])
  exact of_forall_lt (p := fun c ↦ c.isAlpha = true → c ∈ letters) (by decide +kernel) hlt h

theorem mem_digits_iff : c ∈ digits ↔ c.isDigit = true := by
  have hdigits : digits.all Char.isDigit = true := by decide
  refine ⟨List.all_eq_true.1 hdigits c, fun h ↦ ?_⟩
  exact of_forall_lt (p := fun c ↦ c.isDigit = true → c ∈ digits) (by decide +kernel)
    (Json.lt_of_isDigit h) h

/-- Identifiers are letters, at least one, and then nothing or a digit. -/
theorem isValid_iff_exists :
    isValid s = true ↔ ∃ run tail, s.toList = run ++ tail ∧ run ≠ [] ∧
      (∀ c ∈ run, c ∈ letters) ∧ (tail = [] ∨ ∃ d ∈ digits, tail = [d]) := by
  simp only [mem_letters_iff, mem_digits_iff]
  refine ⟨exists_of_isValid, ?_⟩
  rintro ⟨run, tail, hs, hne, hrun, htail⟩
  rw [isValid, hs, List.takeWhile_append_of_pos hrun, List.dropWhile_append_of_pos hrun]
  rcases htail with rfl | ⟨d, hd, rfl⟩
  · simpa using hne
  · simpa [not_isAlpha_of_isDigit hd, hd] using hne

/-! ## Recognition by bytes -/

/-- Is the byte that of a letter of ASCII? -/
def isLetterByte (b : UInt8) : Bool := (0x41 ≤ b && b ≤ 0x5A) || (0x61 ≤ b && b ≤ 0x7A)

/-- Are these the bytes of an identifier?  What stands behind the letters is cut off by their
number. -/
def isValidBytes (bytes : List UInt8) : Bool :=
  let count := (bytes.takeWhile isLetterByte).length
  if count = 0 then false
  else
    match bytes.drop count with
    | [] => true
    | [b] => Json.isDigit b
    | _ :: _ :: _ => false

theorem isLetterByte_eq (b : UInt8) : isLetterByte b = (latin b).isAlpha := by
  rw [Bool.eq_iff_iff, isAlpha_iff_toNat, toNat_latin]
  simp [isLetterByte, UInt8.le_iff_toNat_le]

theorem isValidBytes_eq (bytes : List UInt8) :
    isValidBytes bytes = isValid (String.ofList (bytes.map latin)) := by
  have hcomp : Char.isAlpha ∘ latin = isLetterByte := (funext isLetterByte_eq).symm
  have hdrop : (bytes.takeWhile isLetterByte ++ bytes.dropWhile isLetterByte).drop
      (bytes.takeWhile isLetterByte).length = bytes.dropWhile isLetterByte := List.drop_left
  rw [List.takeWhile_append_dropWhile] at hdrop
  rw [isValid, String.toList_ofList, List.takeWhile_map, List.dropWhile_map, hcomp, isValidBytes,
    hdrop]
  cases bytes.takeWhile isLetterByte with
  | nil => rfl
  | cons b bs =>
    rcases bytes.dropWhile isLetterByte with _ | ⟨d, _ | ⟨e, rest⟩⟩
    · rfl
    · exact Json.isDigit_eq_isDigit_latin d
    · rfl

theorem lt_of_isValid (h : isValid s = true) : ∀ c ∈ s.toList, c.toNat < 0x80 :=
  fun _ hc ↦ lt_of_isAlphanum (isAlphanum_of_mem h hc)

/-- Bytes are recognised exactly if they are the bytes of an identifier. -/
theorem isValidBytes_iff :
    isValidBytes bytes = true ↔ ∃ s, Text.Utf8.decode bytes = some s ∧ isValid s = true := by
  rw [isValidBytes_eq]
  constructor
  · intro h
    refine ⟨_, Text.Utf8.decode_eq_some_iff.2 ?_, h⟩
    rw [Text.Utf8.encode_of_lt (lt_of_isValid h), String.toList_ofList, List.map_map]
    refine (List.map_congr_left fun b _ ↦ ?_).trans (List.map_id bytes)
    rw [Function.comp_apply, toNat_latin, UInt8.ofNat_toNat, id]
  · rintro ⟨s, hs, h⟩
    rwa [← Text.Utf8.encode_of_decode hs, map_latin_encode (lt_of_isValid h), String.ofList_toList]

/-- A text is an identifier exactly if its bytes are recognised. -/
theorem isValidBytes_encode (s : String) : isValidBytes (Text.Utf8.encode s) = isValid s := by
  rw [Bool.eq_iff_iff, isValidBytes_iff, Text.Utf8.decode_encode]
  simp

end RecordGateway.Identifier
