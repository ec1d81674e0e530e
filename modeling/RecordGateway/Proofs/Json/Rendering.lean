import RecordGateway.Json.Text
import RecordGateway.Proofs.Json.Grammar
import RecordGateway.Proofs.Text.Utf8

/-!
# Texts as JSON writes them

A text as JSON writes it spells the text, whatever characters are in it.
-/

namespace RecordGateway.Json

theorem hexDigit_spec : ∀ n < 16, String.utf8EncodeChar (hexDigit n) = [byte (hexDigit n)] ∧
    IsHexDigit n (byte (hexDigit n)) := by
  unfold IsHexDigit
  decide

/-- The number of a control character, with four digits. -/
theorem isHex4_hexDigit {n : Nat} (h : n < 0x20) :
    IsHex4 n [byte '0', byte '0', byte (hexDigit (n / 16)), byte (hexDigit (n % 16))] := by
  have hzero : IsHexDigit 0 (byte '0') := (hexDigit_spec 0 (by decide)).2
  have hhex := IsHex4.mk hzero hzero (hexDigit_spec (n / 16) (by omega)).2
    (hexDigit_spec (n % 16) (by omega)).2
  have hn : ((0 * 16 + 0) * 16 + n / 16) * 16 + n % 16 = n := by omega
  rwa [hn] at hhex

/-- A character is spelled as it is written. -/
theorem Spells.escaped {cs : List Char} {s : List UInt8} (hs : Spells cs s) (c : Char) :
    Spells (c :: cs) ((escape c).flatMap String.utf8EncodeChar ++ s) := by
  have hletter {l e : Char} (hl : (l, e) ∈ escapeLetters) (h : c = e) :
      Spells (c :: cs) (byte '\\' :: byte l :: s) := h ▸ .letter hl hs
  unfold escape
  split
  next h => exact hletter (l := '"') (by decide) h
  next hquote =>
    split
    next h => exact hletter (l := '\\') (by decide) h
    next hback =>
      split
      next h => exact hletter (l := 'n') (by decide) h
      split
      next h => exact hletter (l := 'r') (by decide) h
      split
      next h => exact hletter (l := 't') (by decide) h
      split
      next h => exact hletter (l := 'b') (by decide) h
      split
      next h => exact hletter (l := 'f') (by decide) h
      split
      next h =>
        have hunit := Spells.unit (isHex4_hexDigit h) hs
        have hhigh := (hexDigit_spec (c.toNat / 16) (by omega)).1
        have hlow := (hexDigit_spec (c.toNat % 16) (by omega)).1
        simp only [List.flatMap_cons, List.flatMap_nil, hhigh, hlow]
        exact hunit
      next h =>
        rw [List.flatMap_singleton]
        exact .raw hquote hback (Nat.le_of_not_lt h) hs

theorem spells_escape (cs : List Char) :
    Spells cs ((cs.flatMap escape).flatMap String.utf8EncodeChar) := by
  induction cs with
  | nil => exact .nil
  | cons c cs ih =>
    rw [List.flatMap_cons, List.flatMap_append]
    exact ih.escaped c

/-- A text is spelled as JSON writes it. -/
theorem isText_render (t : String) : IsText t (Text.Utf8.encode (render t)) := by
  rw [Text.Utf8.encode_eq_flatMap, render, String.toList_ofList, List.cons_append,
    List.flatMap_cons, List.flatMap_append]
  exact .mk (spells_escape t.toList)

end RecordGateway.Json
