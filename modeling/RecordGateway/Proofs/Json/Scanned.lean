import RecordGateway.Proofs.Json.Scanning

/-!
# The grammar of what is passed over

Whatever is passed over as a token is a token of the grammar: from the bytes at hand and those that
are left the bytes between them can be told, and these are a number, a text or a value.  For values
the brackets that are open have to be closed in turn (`Closes`).
-/

namespace RecordGateway.Json

variable {s r : List UInt8} {e : Fault}

/-! ## Blanks -/

theorem IsBlanks.append {w w' : List UInt8} (hw : IsBlanks w) (hw' : IsBlanks w') :
    IsBlanks (w ++ w') := by
  intro b hb
  rcases List.mem_append.1 hb with hb | hb
  · exact hw b hb
  · exact hw' b hb

/-- What is dropped from the front is of the kind that is dropped. -/
theorem exists_eq_append_dropWhile (p : UInt8 → Bool) (s : List UInt8) :
    ∃ t, (∀ b ∈ t, p b = true) ∧ s = t ++ s.dropWhile p :=
  ⟨s.takeWhile p, List.all_eq_true.1 List.all_takeWhile, List.takeWhile_append_dropWhile.symm⟩

theorem exists_blanks (s : List UInt8) : ∃ w, IsBlanks w ∧ s = w ++ skipBlank s :=
  exists_eq_append_dropWhile isBlank s

/-- A byte that is found behind blanks. -/
theorem exists_blanks_of_skipBlank {b : UInt8} {t : List UInt8} (h : skipBlank s = b :: t) :
    ∃ w, IsBlanks w ∧ s = w ++ b :: t := by
  obtain ⟨w, hw, hs⟩ := exists_blanks s
  exact ⟨w, hw, h ▸ hs⟩

theorem of_expect {ws : List UInt8} (h : expect ws s = .ok r) : s = ws ++ r := by
  fun_induction expect ws s with
  | case1 =>
    cases h
    rfl
  | case2 => cases h
  | case3 w ws s ih => rw [ih h, List.cons_append]
  | case4 => cases h

/-! ## Numbers -/

theorem of_skipDigits (h : skipDigits e s = .ok r) : ∃ t, s = t ++ r ∧ AreDigits t := by
  cases s with
  | nil => cases h
  | cons b s =>
    rw [skipDigits] at h
    split at h
    next hb =>
      cases h
      obtain ⟨ds, hds, hs⟩ := exists_eq_append_dropWhile isDigit s
      refine ⟨b :: ds, congrArg _ hs, List.cons_ne_nil _ _, ?_⟩
      rintro c (_ | ⟨_, hc⟩)
      · exact hb
      · exact hds c hc
    next => cases h

theorem of_skipWhole (h : skipWhole e s = .ok r) : ∃ t, s = t ++ r ∧ IsWhole t := by
  cases s with
  | nil => cases h
  | cons b s =>
    simp only [skipWhole] at h
    split at h
    next hb =>
      subst hb
      split at h
      · cases h
        exact ⟨_, rfl, .zero⟩
      · split at h
        · cases h
        · cases h
          exact ⟨_, rfl, .zero⟩
    next hb =>
      split at h
      next hdigit =>
        cases h
        obtain ⟨ds, hds, hs⟩ := exists_eq_append_dropWhile isDigit s
        exact ⟨b :: ds, congrArg _ hs, .digits hdigit hb hds⟩
      next => cases h

theorem of_skipFraction (h : skipFraction e s = .ok r) : ∃ t, s = t ++ r ∧ IsFraction t := by
  cases s with
  | nil =>
    cases h
    exact ⟨_, rfl, .none⟩
  | cons b s =>
    rw [skipFraction] at h
    split at h
    next hb =>
      subst hb
      obtain ⟨ds, rfl, hds⟩ := of_skipDigits h
      exact ⟨_, rfl, .some hds⟩
    next =>
      cases h
      exact ⟨_, rfl, .none⟩

theorem exists_sign (s : List UInt8) :
    ∃ sign, sign ∈ [[], [byte '+'], [byte '-']] ∧ s = sign ++ skipSign s := by
  cases s with
  | nil => exact ⟨[], .head _, rfl⟩
  | cons b s =>
    rw [skipSign]
    split
    next hb =>
      rcases hb with rfl | rfl
      · exact ⟨[byte '+'], by simp, rfl⟩
      · exact ⟨[byte '-'], by simp, rfl⟩
    next => exact ⟨[], .head _, rfl⟩

theorem of_skipExponent (h : skipExponent e s = .ok r) : ∃ t, s = t ++ r ∧ IsExponent t := by
  cases s with
  | nil =>
    cases h
    exact ⟨_, rfl, .none⟩
  | cons b s =>
    rw [skipExponent] at h
    split at h
    next hb =>
      obtain ⟨sign, hsign, hs⟩ := exists_sign s
      obtain ⟨ds, hds, hdigits⟩ := of_skipDigits h
      refine ⟨_, ?_, .some hb hsign hdigits⟩
      rw [hs, hds, List.cons_append, List.cons_append, List.append_assoc]
    next =>
      cases h
      exact ⟨_, rfl, .none⟩

theorem of_skipUnsigned (h : skipUnsigned e s = .ok r) : ∃ t, s = t ++ r ∧ IsUnsigned t := by
  simp only [skipUnsigned, bind, Except.bind] at h
  split at h
  · cases h
  next hwhole =>
    split at h
    · cases h
    next hfraction =>
      obtain ⟨w, rfl, hw⟩ := of_skipWhole hwhole
      obtain ⟨f, rfl, hf⟩ := of_skipFraction hfraction
      obtain ⟨x, rfl, hx⟩ := of_skipExponent h
      exact ⟨_, by simp only [List.append_assoc], .mk hw hf hx⟩

/-! ## Texts -/

theorem isHexDigit_of_hexValue? {b : UInt8} {n : Nat} (h : hexValue? b = some n) :
    IsHexDigit n b := by
  simp only [hexValue?, UInt8.le_iff_toNat_le, Bool.and_eq_true, decide_eq_true_eq] at h
  simp only [IsHexDigit]
  split at h
  next hb =>
    cases h
    simp at hb
    omega
  next =>
    split at h
    next hb =>
      cases h
      simp at hb
      omega
    next =>
      split at h
      next hb =>
        cases h
        simp at hb
        omega
      next => cases h

theorem of_hex4? {a b c d : UInt8} {n : Nat} (h : hex4? a b c d = some n) :
    IsHex4 n [a, b, c, d] := by
  simp only [hex4?, Option.bind_eq_bind, Option.bind_eq_some_iff] at h
  obtain ⟨i, ha, j, hb, k, hc, l, hd, hn⟩ := h
  cases hn
  exact .mk (isHexDigit_of_hexValue? ha) (isHexDigit_of_hexValue? hb)
    (isHexDigit_of_hexValue? hc) (isHexDigit_of_hexValue? hd)

theorem of_readHex4 {n : Nat} (h : readHex4 s = .ok (n, r)) : ∃ t, s = t ++ r ∧ IsHex4 n t := by
  unfold readHex4 at h
  split at h
  next a b c d s =>
    split at h
    next hn =>
      cases h
      exact ⟨[a, b, c, d], rfl, of_hex4? hn⟩
    next => cases h
  next => cases h

theorem of_escaped? {l b : UInt8} (h : escaped? l = some b) :
    ∃ p ∈ escapeLetters, l = byte p.1 ∧ b = byte p.2 := by
  by_cases hl : ∃ p ∈ escapeLetters, l = byte p.1
  · obtain ⟨p, hp, rfl⟩ := hl
    rw [escaped?_of_mem p hp] at h
    exact ⟨p, hp, rfl, (Option.some.inj h).symm⟩
  · simp only [escapeLetters, List.mem_cons, List.not_mem_nil, or_false, exists_eq_or_imp,
      exists_eq_left, not_or] at hl
    simp [escaped?, hl] at h

/-- What is passed over behind a backslash goes on with a text. -/
theorem of_skipEscape (h : skipEscape s = .ok r) :
    ∃ t, s = t ++ r ∧ ∀ {u}, IsBody u → IsBody (byte '\\' :: t ++ u) := by
  unfold skipEscape at h
  split at h
  · cases h
  next l s =>
    split at h
    next hl =>
      cases h
      obtain ⟨b, hb⟩ := Option.isSome_iff_exists.1 hl
      obtain ⟨p, hp, rfl, -⟩ := of_escaped? hb
      exact ⟨[byte p.1], rfl, fun hu ↦ .letter hp hu⟩
    next =>
      split at h
      next hu =>
        subst hu
        split at h
        · cases h
        next hn =>
          cases h
          obtain ⟨t, rfl, ht⟩ := of_readHex4 hn
          exact ⟨byte 'u' :: t, rfl, fun hu ↦ .unit ht hu⟩
      next => cases h

theorem of_skipText (h : skipText s = .ok r) : ∃ t, s = t ++ byte '"' :: r ∧ IsBody t := by
  fun_induction skipText s with
  | case1 | case3 | case5 => cases h
  | case2 =>
    cases h
    exact ⟨[], rfl, .nil⟩
  | case4 s _ hescape _ ih =>
    obtain ⟨t, rfl, ht⟩ := of_skipEscape hescape
    obtain ⟨u, rfl, hu⟩ := ih h
    exact ⟨_, by simp, ht hu⟩
  | case6 b s hquote hback hcontrol ih =>
    obtain ⟨t, rfl, ht⟩ := ih h
    exact ⟨_, rfl, .raw hquote hback hcontrol ht⟩

/-! ## Values -/

theorem of_skipScalar {b : UInt8} (h : skipScalar b s = .ok r) :
    ∃ t, s = t ++ r ∧ IsScalar (b :: t) := by
  unfold skipScalar at h
  split at h
  next hb =>
    subst hb
    exact ⟨_, of_expect h, .null⟩
  split at h
  next hb =>
    subst hb
    exact ⟨_, of_expect h, .true⟩
  split at h
  next hb =>
    subst hb
    exact ⟨_, of_expect h, .false⟩
  split at h
  next hb =>
    subst hb
    obtain ⟨t, rfl, ht⟩ := of_skipUnsigned h
    exact ⟨t, rfl, .negative ht⟩
  split at h
  next =>
    obtain ⟨u, hs, hu⟩ := of_skipUnsigned h
    obtain ⟨d, t, rfl, -⟩ := hu.exists_cons
    cases hs
    exact ⟨t, rfl, .unsigned hu⟩
  split at h
  next hb =>
    subst hb
    obtain ⟨t, rfl, ht⟩ := of_skipText h
    exact ⟨t ++ [byte '"'], by simp, .text ht⟩
  next => cases h

/-- A key that is passed over stands in quotes, and a colon is the last that is passed over. -/
theorem of_skipKey (h : skipKey s = .ok r) :
    ∃ w t w', s = w ++ byte '"' :: t ++ byte '"' :: w' ++ byte ':' :: r ∧ IsBlanks w ∧ IsBody t ∧
      IsBlanks w' := by
  unfold skipKey at h
  split at h
  · cases h
  next hq =>
    split at h
    next hquote =>
      subst hquote
      split at h
      · cases h
      next htext =>
        split at h
        · cases h
        next hc =>
          split at h
          next hcolon =>
            cases h
            subst hcolon
            obtain ⟨w, hw, rfl⟩ := exists_blanks_of_skipBlank hq
            obtain ⟨t, rfl, ht⟩ := of_skipText htext
            obtain ⟨w', hw', rfl⟩ := exists_blanks_of_skipBlank hc
            exact ⟨w, t, w', by simp, hw, ht, hw'⟩
          next => cases h
    next => cases h

/-- Blanks in front of the value belong to its label. -/
theorem of_skipLabel {k : Bracket} {w' rest : List UInt8} (hw' : IsBlanks w')
    (h : k.skipLabel s = .ok (w' ++ rest)) :
    ∃ w l, s = w ++ l ++ rest ∧ IsBlanks w ∧ IsLabel k l := by
  cases k with
  | list =>
    cases h
    exact ⟨w', [], by rw [List.append_nil], hw', .list⟩
  | object =>
    obtain ⟨w, t, w₁, rfl, hw, ht, hw₁⟩ := of_skipKey h
    exact ⟨w, _, by simp, hw, .object ht hw₁ hw'⟩

/-- What is left behind a member if some brackets are open, the innermost first. -/
inductive Closes : List Bracket → List UInt8 → Prop
  | nil : Closes [] []
  | cons {k stack t s} (ht : IsPart (.tail k) t) (hs : Closes stack s) :
      Closes (k :: stack) (t ++ s)

/-- What is passed over by what may come next. -/
inductive Passes : List Bracket → Expecting → List UInt8 → Prop
  | value {stack w v s} (hw : IsBlanks w) (hv : IsValue v) (hs : Closes stack s) :
      Passes stack .value (w ++ v ++ s)
  | nothing : Passes [] .firstMember []
  | first {k stack t s} (ht : IsValue (Bracket.opening k :: t)) (hs : Closes stack s) :
      Passes (k :: stack) .firstMember (t ++ s)
  | next {stack s} (hs : Closes stack s) : Passes stack .nextMember s

namespace Passes

variable {k : Bracket} {stack : List Bracket} {w l t : List UInt8}

/-- An opening bracket makes a value of what is passed over behind it. -/
theorem opening (hw : IsBlanks w) (h : Passes (k :: stack) .firstMember t) :
    Passes stack .value (w ++ k.opening :: t) := by
  cases h with
  | first ht hs =>
    rw [← List.cons_append, ← List.append_assoc]
    exact .value hw ht hs

/-- A value that is no bracket. -/
theorem scalar (hw : IsBlanks w) (hs : IsScalar l) (h : Passes stack .nextMember t) :
    Passes stack .value (w ++ (l ++ t)) := by
  cases h with
  | next ht =>
    rw [← List.append_assoc]
    exact .value hw (.scalar hs) ht

/-- A bracket that is closed where its first member was to come. -/
theorem empty (hw : IsBlanks w) (h : Passes stack .nextMember t) :
    Passes (k :: stack) .firstMember (w ++ k.close :: t) := by
  cases h with
  | next hs =>
    rw [List.append_cons]
    exact .first (.empty hw) hs

theorem close (hw : IsBlanks w) (h : Passes stack .nextMember t) :
    Passes (k :: stack) .nextMember (w ++ k.close :: t) := by
  cases h with
  | next hs =>
    rw [List.append_cons]
    exact .next (.cons (.close hw) hs)

/-- A value in an open bracket, and what is left of the bracket. -/
theorem exists_member (h : Passes (k :: stack) .value t) :
    ∃ w v u s, t = w ++ (v ++ (u ++ s)) ∧ IsBlanks w ∧ IsValue v ∧ IsPart (.tail k) u ∧
      Closes stack s := by
  cases h with
  | value hw hv hs =>
    cases hs with
    | cons ht hs => exact ⟨_, _, _, _, by rw [List.append_assoc], hw, hv, ht, hs⟩

end Passes

/-- What is passed over closes all brackets that were open. -/
theorem of_skipOpen {stack : List Bracket} {expecting : Expecting}
    (h : skipOpen stack expecting s = .ok r) : ∃ t, s = t ++ r ∧ Passes stack expecting t := by
  fun_induction skipOpen stack expecting s with
  | case1 | case4 | case7 | case9 | case11 | case13 | case15 => cases h
  | case2 _ _ _ hb ih | case3 _ _ _ hb _ ih =>
    obtain ⟨w, hw, rfl⟩ := exists_blanks_of_skipBlank hb
    obtain ⟨t, rfl, ht⟩ := ih h
    exact ⟨_, by simp [Bracket.opening], .opening hw ht⟩
  | case5 _ _ b _ hb _ _ _ hscalar ih =>
    obtain ⟨w, hw, rfl⟩ := exists_blanks_of_skipBlank hb
    obtain ⟨l, rfl, hl⟩ := of_skipScalar hscalar
    obtain ⟨t, rfl, ht⟩ := ih h
    exact ⟨_, by simp, .scalar hw hl ht⟩
  | case6 expecting _ hne =>
    cases h
    cases expecting with
    | value => exact absurd rfl hne
    | firstMember => exact ⟨[], rfl, .nothing⟩
    | nextMember => exact ⟨[], rfl, .next .nil⟩
  | case8 _ _ _ _ hb ih =>
    obtain ⟨w, hw, rfl⟩ := exists_blanks_of_skipBlank hb
    obtain ⟨t, rfl, ht⟩ := ih h
    exact ⟨_, by simp, .empty hw ht⟩
  | case10 _ k stack b t hb _ _ hlabel ih =>
    obtain ⟨w, hw, rfl⟩ := exists_blanks_of_skipBlank hb
    obtain ⟨t, rfl, ht⟩ := ih h
    obtain ⟨w₁, v, u, s, rfl, hw₁, hv, hu, hs⟩ := ht.exists_member
    rw [List.append_assoc] at hlabel
    obtain ⟨w₂, l, heq, hw₂, hl⟩ := of_skipLabel hw₁ hlabel
    refine ⟨w ++ w₂ ++ l ++ v ++ u ++ s, ?_, .first (.filled (hw.append hw₂) hl hv hu) hs⟩
    rw [heq]
    simp
  | case12 _ _ _ _ hb ih =>
    obtain ⟨w, hw, rfl⟩ := exists_blanks_of_skipBlank hb
    obtain ⟨t, rfl, ht⟩ := ih h
    exact ⟨_, by simp, .close hw ht⟩
  | case14 _ k stack t _ hlabel hb _ ih =>
    obtain ⟨w, hw, rfl⟩ := exists_blanks_of_skipBlank hb
    obtain ⟨t, rfl, ht⟩ := ih h
    obtain ⟨w₁, v, u, s, rfl, hw₁, hv, hu, hs⟩ := ht.exists_member
    rw [List.append_assoc] at hlabel
    obtain ⟨w₂, l, rfl, hw₂, hl⟩ := of_skipLabel hw₁ hlabel
    refine ⟨w ++ byte ',' :: w₂ ++ l ++ v ++ u ++ s, by simp, ?_⟩
    exact .next (.cons (.comma hw hw₂ hl hv hu) hs)

/-- What is passed over as a value is one, with blanks in front of it. -/
theorem of_skipValue (h : skipValue s = .ok r) :
    ∃ w v, s = w ++ v ++ r ∧ IsBlanks w ∧ IsValue v := by
  obtain ⟨t, rfl, ht⟩ := of_skipOpen h
  cases ht with
  | value hw hv hs =>
    cases hs with
    | nil => exact ⟨_, _, by rw [List.append_nil], hw, hv⟩

end RecordGateway.Json
