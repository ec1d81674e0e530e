/-!
# Letter case and white space

Texts are compared without regard to the case of their letters, and taken without the blanks around
them.
-/

namespace RecordGateway.Text

/-! ## Letter case in ASCII

Names in SQL and words in HTTP are compared without regard to the case of the letters `A` to
`Z`.  Folding a text writes each of these letters small and leaves every other character alone. -/

/-- The characters of a text with the letters `A` to `Z` written small. -/
def folded (s : String) : List Char := s.toList.map Char.toLower

/-- Two texts that differ at most in the case of ASCII letters. -/
def sameIgnoringCase (s t : String) : Bool := folded s == folded t

theorem sameIgnoringCase_iff {s t : String} :
    sameIgnoringCase s t = true ↔ folded s = folded t := by
  simp [sameIgnoringCase]

@[simp] theorem sameIgnoringCase_self (s : String) : sameIgnoringCase s s = true := by
  simp [sameIgnoringCase]

theorem sameIgnoringCase_comm (s t : String) : sameIgnoringCase s t = sameIgnoringCase t s := by
  rw [Bool.eq_iff_iff, sameIgnoringCase_iff, sameIgnoringCase_iff]
  exact eq_comm

/-! ## White space

The characters with the Unicode property `White_Space`, and texts without them at either end. -/

/-- The 25 characters with the property `White_Space`. -/
def isBlank (c : Char) : Bool :=
  let n := c.toNat
  (9 ≤ n && n ≤ 13) || n == 0x20 || n == 0x85 || n == 0xA0 || n == 0x1680
    || (0x2000 ≤ n && n ≤ 0x200A) || n == 0x2028 || n == 0x2029 || n == 0x202F
    || n == 0x205F || n == 0x3000

/-- Every character that core counts as white space is blank. -/
theorem isBlank_of_isWhitespace {c : Char} (h : c.isWhitespace = true) : isBlank c = true := by
  simp only [Char.isWhitespace, Bool.or_eq_true, decide_eq_true_eq] at h
  rcases h with ((h | h) | h) | h <;> subst h <;> decide

/-- A text without the blanks at its end. -/
def trimEnd (cs : List Char) : List Char := (cs.reverse.dropWhile isBlank).reverse

/-- A text without the blanks at its beginning and at its end. -/
def trim (cs : List Char) : List Char := trimEnd (cs.dropWhile isBlank)

@[simp] theorem trim_nil : trim [] = [] := rfl

end RecordGateway.Text
