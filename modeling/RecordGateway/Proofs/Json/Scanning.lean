import RecordGateway.Proofs.Json.Grammar

/-!
# Passing over what the grammar allows

A token at the front of some bytes is passed over as a whole, and what follows it is left.  A
number needs something behind it that cannot go on with it.
-/

namespace RecordGateway.Json

variable {s rest : List UInt8} {e : Fault}

/-! ## Blanks -/

theorem isBlanks_nil : IsBlanks [] := fun _ hb ↦ by cases hb

theorem skipBlank_append {w : List UInt8} (hw : IsBlanks w) (s : List UInt8) :
    skipBlank (w ++ s) = skipBlank s :=
  List.dropWhile_append_of_pos hw

theorem skipBlank_cons {b : UInt8} (hb : isBlank b = false) (s : List UInt8) :
    skipBlank (b :: s) = b :: s := by
  rw [skipBlank, List.dropWhile_cons_of_neg (by simp [hb])]

/-- Blanks are passed over up to the first byte that is none. -/
theorem skipBlank_append_cons {w : List UInt8} (hw : IsBlanks w) {b : UInt8}
    (hb : isBlank b = false) (s : List UInt8) : skipBlank (w ++ b :: s) = b :: s := by
  rw [skipBlank_append hw, skipBlank_cons hb]

theorem isBlank_quote : isBlank (byte '"') = false := by decide

theorem isBlank_colon : isBlank (byte ':') = false := by decide

theorem isBlank_comma : isBlank (byte ',') = false := by decide

theorem isBlank_openList : isBlank (byte '[') = false := by decide

theorem isBlank_closeList : isBlank (byte ']') = false := by decide

theorem isBlank_openObject : isBlank (byte '{') = false := by decide

theorem isBlank_closeObject : isBlank (byte '}') = false := by decide

theorem expect_append (ws rest : List UInt8) : expect ws (ws ++ rest) = .ok rest := by
  induction ws with
  | nil => cases rest <;> rfl
  | cons w ws ih => simpa [expect] using ih

/-! ## Numbers -/

/-- No digit comes next. -/
def NoDigit (s : List UInt8) : Prop := ∀ b ∈ s.head?, isDigit b = false

/-- Nothing comes next that a number could go on with. -/
def Ends (s : List UInt8) : Prop :=
  ∀ b ∈ s.head?, isDigit b = false ∧ b ≠ byte '.' ∧ b ≠ byte 'e' ∧ b ≠ byte 'E'

theorem Ends.noDigit (h : Ends rest) : NoDigit rest := fun b hb ↦ (h b hb).1

theorem ends_cons {b : UInt8}
    (h : isDigit b = false ∧ b ≠ byte '.' ∧ b ≠ byte 'e' ∧ b ≠ byte 'E') (s : List UInt8) :
    Ends (b :: s) := by
  intro c hc
  cases hc
  exact h

theorem dropWhile_isDigit_append {ds : List UInt8} (hds : ∀ b ∈ ds, isDigit b = true)
    (hrest : NoDigit rest) : (ds ++ rest).dropWhile isDigit = rest := by
  rw [List.dropWhile_append_of_pos hds]
  cases rest with
  | nil => rfl
  | cons b rest => rw [List.dropWhile_cons_of_neg (by simp [hrest b rfl])]

theorem skipDigits_append (hs : AreDigits s) (hrest : NoDigit rest) :
    skipDigits e (s ++ rest) = .ok rest := by
  obtain ⟨hne, hds⟩ := hs
  obtain ⟨d, ds, rfl⟩ := List.exists_cons_of_ne_nil hne
  rw [List.cons_append, skipDigits, if_pos (hds d (.head _)),
    dropWhile_isDigit_append (fun b hb ↦ hds b (.tail _ hb)) hrest]

theorem skipWhole_append (hs : IsWhole s) (hrest : NoDigit rest) :
    skipWhole e (s ++ rest) = .ok rest := by
  cases hs with
  | zero =>
    cases rest with
    | nil => rfl
    | cons b rest => simp [skipWhole, hrest b rfl]
  | digits hd hne hds =>
    simp only [List.cons_append, skipWhole, if_neg hne, if_pos hd,
      dropWhile_isDigit_append hds hrest]

theorem skipFraction_append (hs : IsFraction s) (hrest : NoDigit rest)
    (hpoint : ∀ b ∈ rest.head?, b ≠ byte '.') : skipFraction e (s ++ rest) = .ok rest := by
  cases hs with
  | none =>
    cases rest with
    | nil => rfl
    | cons b rest => rw [List.nil_append, skipFraction, if_neg (hpoint b rfl)]
  | some hds => rw [List.cons_append, skipFraction, if_pos rfl, skipDigits_append hds hrest]

/-- A sign in front of digits is passed over, if there is one. -/
theorem skipSign_append {sign : List UInt8} (hsign : sign ∈ [[], [byte '+'], [byte '-']])
    (hs : AreDigits s) (rest : List UInt8) : skipSign (sign ++ s ++ rest) = s ++ rest := by
  obtain ⟨hne, hds⟩ := hs
  obtain ⟨d, ds, rfl⟩ := List.exists_cons_of_ne_nil hne
  have hd := hds d (.head _)
  simp only [List.mem_cons, List.not_mem_nil, or_false] at hsign
  rcases hsign with rfl | rfl | rfl
  · have hd' : ¬(d = byte '+' ∨ d = byte '-') := by
      rintro (rfl | rfl) <;> revert hd <;> decide
    rw [List.nil_append, List.cons_append, skipSign, if_neg hd']
  · rfl
  · rfl

theorem skipExponent_append (hs : IsExponent s) (hrest : Ends rest) :
    skipExponent e (s ++ rest) = .ok rest := by
  cases hs with
  | none =>
    cases rest with
    | nil => rfl
    | cons b rest =>
      obtain ⟨-, -, he, hE⟩ := hrest b rfl
      rw [List.nil_append, skipExponent, if_neg (by simp [he, hE])]
  | some he hsign hds =>
    rw [List.cons_append, List.cons_append, skipExponent, if_pos he,
      skipSign_append hsign hds, skipDigits_append hds hrest.noDigit]

theorem IsExponent.head_append (hs : IsExponent s) (hrest : Ends rest) :
    NoDigit (s ++ rest) ∧ ∀ b ∈ (s ++ rest).head?, b ≠ byte '.' := by
  cases hs with
  | none => exact ⟨hrest.noDigit, fun b hb ↦ (hrest b hb).2.1⟩
  | some he =>
    constructor <;> intro b hb <;> cases hb <;> rcases he with rfl | rfl <;> decide

theorem IsFraction.noDigit_append (hs : IsFraction s) (hrest : NoDigit rest) :
    NoDigit (s ++ rest) := by
  cases hs with
  | none => exact hrest
  | some =>
    intro b hb
    cases hb
    decide

theorem skipUnsigned_append (hs : IsUnsigned s) (hrest : Ends rest) :
    skipUnsigned e (s ++ rest) = .ok rest := by
  obtain ⟨hw, hf, he⟩ := hs
  obtain ⟨hdigit, hpoint⟩ := he.head_append hrest
  rw [List.append_assoc, List.append_assoc, skipUnsigned,
    skipWhole_append hw (hf.noDigit_append hdigit)]
  simp only [bind, Except.bind, skipFraction_append hf hdigit hpoint,
    skipExponent_append he hrest]

/-- A number begins with a digit. -/
theorem IsUnsigned.exists_cons (hs : IsUnsigned s) :
    ∃ d t, s = d :: t ∧ isDigit d = true := by
  obtain ⟨hw, -, -⟩ := hs
  cases hw with
  | zero => exact ⟨_, _, rfl, by decide⟩
  | digits hd => exact ⟨_, _, rfl, hd⟩

/-! ## Texts -/

theorem hexValue?_of_isHexDigit {n : Nat} {b : UInt8} (h : IsHexDigit n b) :
    hexValue? b = some n := by
  simp only [hexValue?, UInt8.le_iff_toNat_le, Bool.and_eq_true, decide_eq_true_eq]
  rcases h with ⟨hn, hb⟩ | ⟨hn, hn', hb | hb⟩ <;> rw [hb]
  · rw [if_pos (by simp; omega)]
    simp
  · rw [if_neg (by simp; omega), if_pos (by simp; omega)]
    simp
  · rw [if_neg (by simp; omega), if_neg (by simp; omega), if_pos (by simp; omega)]
    simp

theorem readHex4_append {n : Nat} {h : List UInt8} (hh : IsHex4 n h) (rest : List UInt8) :
    readHex4 (h ++ rest) = .ok (n, rest) := by
  obtain ⟨ha, hb, hc, hd⟩ := hh
  simp [readHex4, hex4?, hexValue?_of_isHexDigit ha, hexValue?_of_isHexDigit hb,
    hexValue?_of_isHexDigit hc, hexValue?_of_isHexDigit hd]

theorem escaped?_of_mem :
    ∀ p ∈ escapeLetters, escaped? (byte p.1) = some (byte p.2) := by
  decide

theorem skipText_quote (rest : List UInt8) : skipText (byte '"' :: rest) = .ok rest := by
  rw [skipText, if_pos rfl]

theorem skipText_raw {b : UInt8} (hquote : b ≠ byte '"') (hback : b ≠ byte '\\')
    (hcontrol : ¬b < 0x20) (s : List UInt8) : skipText (b :: s) = skipText s := by
  rw [skipText, if_neg hquote, if_neg hback, if_neg hcontrol]

theorem skipText_escape {s r : List UInt8} (h : skipEscape s = .ok r) :
    skipText (byte '\\' :: s) = skipText r := by
  rw [skipText, if_neg (by decide), if_pos rfl]
  split
  next h' => rw [h] at h'; cases h'
  next h' => rw [h] at h'; cases h'; rfl

/-- A text is passed over up to its closing quote. -/
theorem skipText_append (hs : IsBody s) (rest : List UInt8) :
    skipText (s ++ byte '"' :: rest) = .ok rest := by
  induction hs with
  | nil => exact skipText_quote rest
  | raw hquote hback hcontrol _ ih =>
    rw [List.cons_append, skipText_raw hquote hback hcontrol, ih]
  | letter hl _ ih =>
    have hletter := escaped?_of_mem _ hl
    rw [List.cons_append, List.cons_append, skipText_escape, ih]
    simp [skipEscape, hletter]
  | unit hh _ ih =>
    rw [List.cons_append, List.cons_append, List.append_assoc, skipText_escape, ih]
    have hletter : escaped? (byte 'u') = none := by decide
    simp [skipEscape, hletter, readHex4_append hh]

/-! ## Values -/

/-- A byte that a value may begin with, as far as it tells a value from the end of a list. -/
def Begins (b : UInt8) : Prop := isBlank b = false ∧ b ≠ byte ']'

theorem begins_of_isDigit {b : UInt8} (hb : isDigit b = true) : Begins b := by
  have hge : b.toNat ≥ 0x30 ∧ b.toNat ≤ 0x39 := by
    simpa [isDigit, UInt8.le_iff_toNat_le] using hb
  constructor
  · rw [Bool.eq_false_iff]
    intro hblank
    simp only [isBlank, Bool.or_eq_true, beq_iff_eq] at hblank
    rcases hblank with ((rfl | rfl) | rfl) | rfl <;> revert hge <;> decide
  · rintro rfl
    revert hge
    decide

theorem skipScalar_unsigned {d : UInt8} {s : List UInt8} (hd : isDigit d = true) :
    skipScalar d s = skipUnsigned .malformed (d :: s) := by
  have hn : d ≠ byte 'n' := by rintro rfl; revert hd; decide
  have ht : d ≠ byte 't' := by rintro rfl; revert hd; decide
  have hf : d ≠ byte 'f' := by rintro rfl; revert hd; decide
  have hminus : d ≠ byte '-' := by rintro rfl; revert hd; decide
  rw [skipScalar, if_neg hn, if_neg ht, if_neg hf, if_neg hminus, if_pos hd]

/-- A value that is no list or object is passed over by its first byte. -/
theorem IsScalar.skip (hs : IsScalar s) :
    ∃ b t, s = b :: t ∧ Begins b ∧ b ≠ byte '[' ∧ b ≠ byte '{' ∧
      ∀ rest, Ends rest → skipScalar b (t ++ rest) = .ok rest := by
  cases hs with
  | null =>
    refine ⟨_, _, rfl, ⟨by decide, by decide⟩, by decide, by decide, fun rest _ ↦ ?_⟩
    rw [skipScalar, if_pos rfl, expect_append]
  | true =>
    refine ⟨_, _, rfl, ⟨by decide, by decide⟩, by decide, by decide, fun rest _ ↦ ?_⟩
    rw [skipScalar, if_neg (by decide), if_pos rfl, expect_append]
  | false =>
    refine ⟨_, _, rfl, ⟨by decide, by decide⟩, by decide, by decide, fun rest _ ↦ ?_⟩
    rw [skipScalar, if_neg (by decide), if_neg (by decide), if_pos rfl, expect_append]
  | unsigned hs =>
    obtain ⟨d, t, rfl, hd⟩ := hs.exists_cons
    refine ⟨d, t, rfl, begins_of_isDigit hd, ?_, ?_, fun rest hrest ↦ ?_⟩
    · rintro rfl
      revert hd
      decide
    · rintro rfl
      revert hd
      decide
    · rw [skipScalar_unsigned hd]
      exact skipUnsigned_append hs hrest
  | negative hs =>
    refine ⟨_, _, rfl, ⟨by decide, by decide⟩, by decide, by decide, fun rest hrest ↦ ?_⟩
    rw [skipScalar, if_neg (by decide), if_neg (by decide), if_neg (by decide), if_pos rfl,
      skipUnsigned_append hs hrest]
  | @text body hs =>
    refine ⟨_, body ++ [byte '"'], rfl, ⟨by decide, by decide⟩, by decide, by decide,
      fun rest _ ↦ ?_⟩
    rw [skipScalar, if_neg (by decide), if_neg (by decide), if_neg (by decide),
      if_neg (by decide), if_neg (by decide), if_pos rfl, List.append_assoc, List.singleton_append,
      skipText_append hs]

theorem skipOpen_value (stack : List Bracket) (s : List UInt8) :
    skipOpen stack .value s
      = match skipBlank s with
        | [] => .error .truncated
        | b :: t =>
          if b = byte '[' then skipOpen (.list :: stack) .firstMember t
          else if b = byte '{' then skipOpen (.object :: stack) .firstMember t
          else
            match skipScalar b t with
            | .error e => .error e
            | .ok r => skipOpen stack .nextMember r := by
  rw [skipOpen]
  split
  next h => rw [h]
  next b t h =>
    rw [h]
    simp only
    split
    · rfl
    split
    · rfl
    split <;> simp_all

theorem skipOpen_first (k : Bracket) (stack : List Bracket) (s : List UInt8) :
    skipOpen (k :: stack) .firstMember s
      = match skipBlank s with
        | [] => .error .truncated
        | b :: t =>
          if b = k.close then skipOpen stack .nextMember t
          else
            match k.skipLabel (b :: t) with
            | .error e => .error e
            | .ok r => skipOpen (k :: stack) .value r := by
  rw [skipOpen]
  split
  next h => rw [h]
  next b t h =>
    rw [h]
    simp only
    split
    · rfl
    split <;> simp_all

theorem skipOpen_next (k : Bracket) (stack : List Bracket) (s : List UInt8) :
    skipOpen (k :: stack) .nextMember s
      = match skipBlank s with
        | [] => .error .truncated
        | b :: t =>
          if b = k.close then skipOpen stack .nextMember t
          else if b = byte ',' then
            match k.skipLabel t with
            | .error e => .error e
            | .ok r => skipOpen (k :: stack) .value r
          else .error .malformed := by
  rw [skipOpen]
  split
  next h => rw [h]
  next b t h =>
    rw [h]
    simp only
    split
    · rfl
    split
    · split <;> simp_all
    · rfl

theorem skipOpen_value_append {w : List UInt8} (hw : IsBlanks w) (stack : List Bracket)
    (s : List UInt8) : skipOpen stack .value (w ++ s) = skipOpen stack .value s := by
  rw [skipOpen_value, skipOpen_value, skipBlank_append hw]

theorem skipOpen_opening (k : Bracket) (stack : List Bracket) (s : List UInt8) :
    skipOpen stack .value (k.opening :: s) = skipOpen (k :: stack) .firstMember s := by
  cases k with
  | list =>
    rw [skipOpen_value, Bracket.opening, skipBlank_cons isBlank_openList]
    exact if_pos rfl
  | object =>
    rw [skipOpen_value, Bracket.opening, skipBlank_cons isBlank_openObject]
    exact (if_neg (by decide)).trans (if_pos rfl)

theorem Bracket.isBlank_close (k : Bracket) : isBlank k.close = false := by
  cases k with
  | list => exact isBlank_closeList
  | object => exact isBlank_closeObject

theorem skipOpen_first_close (k : Bracket) (stack : List Bracket) {w : List UInt8}
    (hw : IsBlanks w) (s : List UInt8) :
    skipOpen (k :: stack) .firstMember (w ++ k.close :: s) = skipOpen stack .nextMember s := by
  rw [skipOpen_first, skipBlank_append_cons hw k.isBlank_close]
  exact if_pos rfl

theorem skipOpen_next_close (k : Bracket) (stack : List Bracket) {w : List UInt8}
    (hw : IsBlanks w) (s : List UInt8) :
    skipOpen (k :: stack) .nextMember (w ++ k.close :: s) = skipOpen stack .nextMember s := by
  rw [skipOpen_next, skipBlank_append_cons hw k.isBlank_close]
  exact if_pos rfl

/-- A key and its colon are passed over, with blanks in front. -/
theorem skipKey_append {w w' body : List UInt8} (hw : IsBlanks w) (hbody : IsBody body)
    (hw' : IsBlanks w') (rest : List UInt8) :
    skipKey (w ++ byte '"' :: body ++ byte '"' :: w' ++ byte ':' :: rest) = .ok rest := by
  simp only [List.append_assoc, List.cons_append]
  simp only [skipKey, skipBlank_append_cons hw isBlank_quote, if_true, skipText_append hbody,
    skipBlank_append_cons hw' isBlank_colon]

/-- What stands before the value of a member is passed over up to blanks. -/
theorem IsLabel.skip {k : Bracket} {l w : List UInt8} (hl : IsLabel k l) (hw : IsBlanks w)
    (rest : List UInt8) :
    ∃ w', IsBlanks w' ∧ k.skipLabel (w ++ l ++ rest) = .ok (w' ++ rest) := by
  cases hl with
  | list => exact ⟨w, hw, by rw [List.append_nil]; rfl⟩
  | object hs hw₁ hw₂ =>
    refine ⟨_, hw₂, ?_⟩
    have h := skipKey_append hw hs hw₁
    simp only [List.append_assoc, List.cons_append] at h ⊢
    exact h _

theorem ends_of_isBlank {b : UInt8} (hb : isBlank b = true) :
    isDigit b = false ∧ b ≠ byte '.' ∧ b ≠ byte 'e' ∧ b ≠ byte 'E' := by
  simp only [isBlank, Bool.or_eq_true, beq_iff_eq] at hb
  rcases hb with ((rfl | rfl) | rfl) | rfl <;> decide

/-- Neither blanks nor what comes behind them go on with a number. -/
theorem ends_append_cons {w : List UInt8} (hw : IsBlanks w) {b : UInt8}
    (hb : isDigit b = false ∧ b ≠ byte '.' ∧ b ≠ byte 'e' ∧ b ≠ byte 'E') (s : List UInt8) :
    Ends (w ++ b :: s) := by
  cases w with
  | nil => exact ends_cons hb s
  | cons c w => exact ends_cons (ends_of_isBlank (hw c (.head _))) _

/-- A member begins with a byte that is neither blank nor the end of its bracket. -/
theorem IsLabel.begins {k : Bracket} {l : List UInt8} (hl : IsLabel k l) {b : UInt8}
    (hb : Begins b) (s : List UInt8) :
    ∃ c u, l ++ b :: s = c :: u ∧ isBlank c = false ∧ c ≠ k.close := by
  cases hl with
  | list => exact ⟨b, s, rfl, hb⟩
  | object => exact ⟨_, _, rfl, by decide, by decide⟩

/-- What it means that a part of a value is passed over. -/
def Part.Skips : Part → List UInt8 → Prop
  | value, s => (∃ b t, s = b :: t ∧ Begins b) ∧ ∀ stack rest, Ends rest →
      skipOpen stack .value (s ++ rest) = skipOpen stack .nextMember rest
  | tail k, s => (∀ rest, Ends (s ++ rest)) ∧ ∀ stack rest,
      skipOpen (k :: stack) .nextMember (s ++ rest) = skipOpen stack .nextMember rest

/-- Behind the label of a member its value and what is left of the bracket are passed over. -/
theorem skipOpen_member {k : Bracket} {v t w : List UInt8} (hw : IsBlanks w)
    (hv : Part.value.Skips v) (ht : (Part.tail k).Skips t) (stack : List Bracket)
    (rest : List UInt8) :
    skipOpen (k :: stack) .value (w ++ (v ++ (t ++ rest))) = skipOpen stack .nextMember rest := by
  rw [skipOpen_value_append hw, hv.2 _ _ (ht.1 rest), ht.2]

theorem IsPart.skips {p : Part} (h : IsPart p s) : p.Skips s := by
  induction h with
  | scalar hs =>
    obtain ⟨b, t, rfl, hb, hlist, hobject, hskip⟩ := hs.skip
    refine ⟨⟨b, t, rfl, hb⟩, fun stack rest hrest ↦ ?_⟩
    rw [List.cons_append, skipOpen_value, skipBlank_cons hb.1]
    simp only [if_neg hlist, if_neg hobject, hskip rest hrest]
  | @empty k w hw =>
    refine ⟨⟨_, _, rfl, by cases k <;> exact ⟨by decide, by decide⟩⟩, fun stack rest _ ↦ ?_⟩
    rw [List.cons_append, List.cons_append, skipOpen_opening, List.append_assoc,
      List.singleton_append, skipOpen_first_close k stack hw]
  | @filled k w l v t hw hl _ _ hv ht =>
    refine ⟨⟨_, _, rfl, by cases k <;> exact ⟨by decide, by decide⟩⟩, fun stack rest _ ↦ ?_⟩
    obtain ⟨b, u, rfl, hb⟩ := hv.1
    obtain ⟨c, m, hm, hc, hclose⟩ := hl.begins hb (u ++ (t ++ rest))
    obtain ⟨w', hw', hlabel⟩ := hl.skip isBlanks_nil (b :: u ++ (t ++ rest))
    rw [List.nil_append, List.cons_append, hm] at hlabel
    simp only [List.cons_append, List.append_assoc]
    rw [skipOpen_opening, skipOpen_first, hm, skipBlank_append_cons hw hc]
    simp only [if_neg hclose, hlabel]
    exact skipOpen_member hw' hv ht stack rest
  | @close k w hw =>
    refine ⟨fun rest ↦ ?_, fun stack rest ↦ ?_⟩
    · rw [List.append_assoc]
      refine ends_append_cons hw ?_ rest
      cases k <;> decide
    · rw [List.append_assoc, List.singleton_append, skipOpen_next_close k stack hw]
  | @comma k w w' l v t hw hw' hl _ _ hv ht =>
    refine ⟨fun rest ↦ ?_, fun stack rest ↦ ?_⟩
    · simp only [List.append_assoc, List.cons_append]
      exact ends_append_cons hw (by decide) _
    · obtain ⟨w'', hw'', hlabel⟩ := hl.skip hw' (v ++ (t ++ rest))
      have hcomma : byte ',' ≠ k.close := by cases k <;> decide
      simp only [List.append_assoc, List.cons_append] at hlabel ⊢
      rw [skipOpen_next, skipBlank_append_cons hw isBlank_comma]
      simp only [if_neg hcomma, if_true, hlabel]
      exact skipOpen_member hw'' hv ht stack rest

/-- A value is passed over as a whole. -/
theorem skipValue_append (hs : IsValue s) (hrest : Ends rest) : skipValue (s ++ rest) = .ok rest := by
  rw [skipValue, hs.skips.2 [] rest hrest, skipOpen]
  intro h
  cases h

theorem IsValue.exists_cons (hs : IsValue s) : ∃ b t, s = b :: t ∧ Begins b := hs.skips.1

end RecordGateway.Json
