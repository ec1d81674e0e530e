import Mathlib.Data.List.TakeWhile
import RecordGateway.Number.Decimal

/-!
# The grammar of written numbers

A text is read as a number exactly if it is one of the ways to write it: an optional minus sign, a
whole part, a fraction and an exponent, where digits, signs and the case of the `e` are those of the
text.
-/

namespace RecordGateway.Decimal

/-! ## The grammar -/

/-- Digits, at least one. -/
def AreDigits (cs : List Char) : Prop := cs ≠ [] ∧ ∀ c ∈ cs, c.isDigit = true

/-- A zero, or digits of which the first is none. -/
inductive IsWholePart : List Char → Prop
  | zero : IsWholePart ['0']
  | digits {c cs} (hc : c.isDigit = true) (hne : c ≠ '0') (hcs : ∀ a ∈ cs, a.isDigit = true) :
      IsWholePart (c :: cs)

/-- How a sign is written in front of a number. -/
def signText (negative : Bool) : List Char := if negative then ['-'] else []

/-- The ways to write a fraction: nothing, or digits behind a point. -/
inductive WritesFraction : Option (List Char) → List Char → Prop
  | none : WritesFraction none []
  | some {ds} (hds : AreDigits ds) : WritesFraction (some ds) ('.' :: ds)

/-- The ways to write the sign of an exponent. -/
inductive WritesExponentSign : Bool → List Char → Prop
  | none : WritesExponentSign false []
  | plus : WritesExponentSign false ['+']
  | minus : WritesExponentSign true ['-']

/-- The ways to write an exponent: nothing, or digits behind an `e` that may have a sign. -/
inductive WritesExponent : Option (Bool × List Char) → List Char → Prop
  | none : WritesExponent none []
  | some {e negative sign ds} (he : e = 'e' ∨ e = 'E') (hsign : WritesExponentSign negative sign)
      (hds : AreDigits ds) : WritesExponent (some (negative, ds)) (e :: sign ++ ds)

/-- The ways to write a number. -/
inductive Writes : Decimal → List Char → Prop
  | mk {negative whole fraction exponent f x} (hwhole : IsWholePart whole)
      (hfraction : WritesFraction fraction f) (hexponent : WritesExponent exponent x) :
      Writes ⟨negative, whole, fraction, exponent⟩ (signText negative ++ whole ++ f ++ x)

variable {cs ds rest : List Char} {d : Decimal}

theorem IsWholePart.areDigits (h : IsWholePart cs) : AreDigits cs := by
  cases h with
  | zero => exact ⟨List.cons_ne_nil _ _, List.forall_mem_singleton.2 rfl⟩
  | digits hc hne hcs => exact ⟨List.cons_ne_nil _ _, List.forall_mem_cons.2 ⟨hc, hcs⟩⟩

/-! ## Digits at the front -/

/-- What follows the digits of a number: no digit. -/
def NoDigit (cs : List Char) : Prop := ∀ c ∈ cs.head?, c.isDigit = false

theorem noDigit_nil : NoDigit [] := fun _ hc ↦ by cases hc

theorem noDigit_cons {c : Char} (hc : c.isDigit = false) (cs : List Char) : NoDigit (c :: cs) := by
  intro a ha
  cases ha
  exact hc

theorem NoDigit.dropWhile (h : NoDigit rest) : rest.dropWhile Char.isDigit = rest := by
  cases rest with
  | nil => rfl
  | cons c cs => rw [List.dropWhile_cons_of_neg (by simp [h c rfl])]

theorem NoDigit.takeWhile (h : NoDigit rest) : rest.takeWhile Char.isDigit = [] := by
  cases rest with
  | nil => rfl
  | cons c cs => rw [List.takeWhile_cons_of_neg (by simp [h c rfl])]

theorem noDigit_dropWhile (cs : List Char) : NoDigit (cs.dropWhile Char.isDigit) := by
  intro c hc
  have hnot := List.head?_dropWhile_not Char.isDigit cs
  rw [Option.mem_def.1 hc] at hnot
  simpa using hnot

theorem takeDigits_append (hds : AreDigits ds) (hrest : NoDigit rest) :
    takeDigits (ds ++ rest) = some (ds, rest) := by
  obtain ⟨hne, hds⟩ := hds
  have htake : (ds ++ rest).takeWhile Char.isDigit = ds := by
    rw [List.takeWhile_append_of_pos hds, hrest.takeWhile, List.append_nil]
  have hdrop : (ds ++ rest).dropWhile Char.isDigit = rest := by
    rw [List.dropWhile_append_of_pos hds, hrest.dropWhile]
  obtain ⟨c, cs, rfl⟩ := List.exists_cons_of_ne_nil hne
  rw [takeDigits, htake, hdrop]

theorem of_takeDigits (h : takeDigits cs = some (ds, rest)) :
    cs = ds ++ rest ∧ AreDigits ds ∧ NoDigit rest := by
  unfold takeDigits at h
  split at h
  · cases h
  next c as htake =>
    cases h
    have hds : ∀ a ∈ c :: as, a.isDigit = true := by
      rw [← htake]
      exact fun a ha ↦ List.mem_takeWhile_imp ha
    refine ⟨?_, ⟨List.cons_ne_nil _ _, hds⟩, noDigit_dropWhile cs⟩
    rw [← htake, List.takeWhile_append_dropWhile]

/-! ## The parts of a number -/

theorem takeSign_signText (negative : Bool) (hrest : cs.head? ≠ some '-') :
    takeSign (signText negative ++ cs) = (negative, cs) := by
  cases negative with
  | true => rfl
  | false =>
    unfold takeSign
    split
    next h =>
      subst h
      exact absurd rfl hrest
    next => rfl

theorem eq_signText_append (cs : List Char) :
    cs = signText (takeSign cs).1 ++ (takeSign cs).2 := by
  unfold takeSign
  split <;> rfl

theorem takeWhole_append (h : IsWholePart ds) (hrest : NoDigit rest) :
    takeWhole (ds ++ rest) = some (ds, rest) := by
  have hdigits := takeDigits_append h.areDigits hrest
  cases h with
  | zero => rfl
  | @digits c cs hc hne hcs =>
    rw [List.cons_append] at hdigits ⊢
    unfold takeWhole
    split
    next heq =>
      cases heq
      exact absurd rfl hne
    next => exact hdigits

theorem of_takeWhole (h : takeWhole cs = some (ds, rest)) : cs = ds ++ rest ∧ IsWholePart ds := by
  unfold takeWhole at h
  split at h
  · cases h
    exact ⟨rfl, .zero⟩
  next hzero =>
    obtain ⟨rfl, ⟨hne, hds⟩, -⟩ := of_takeDigits h
    obtain ⟨c, as, rfl⟩ := List.exists_cons_of_ne_nil hne
    obtain ⟨hc, has⟩ := List.forall_mem_cons.1 hds
    refine ⟨rfl, .digits hc ?_ has⟩
    rintro rfl
    exact hzero _ rfl

theorem takeFraction_append {fraction : Option (List Char)} (h : WritesFraction fraction ds)
    (hrest : NoDigit rest) (hpoint : rest.head? ≠ some '.') :
    takeFraction (ds ++ rest) = some (fraction, rest) := by
  cases h with
  | none =>
    rw [List.nil_append]
    unfold takeFraction
    split
    · exact absurd rfl hpoint
    · rfl
  | some hds =>
    rw [List.cons_append, takeFraction, takeDigits_append hds hrest]
    rfl

theorem of_takeFraction {fraction : Option (List Char)}
    (h : takeFraction cs = some (fraction, rest)) :
    ∃ f, cs = f ++ rest ∧ WritesFraction fraction f := by
  unfold takeFraction at h
  split at h
  · obtain ⟨⟨ds, as⟩, hdigits, heq⟩ := Option.map_eq_some_iff.1 h
    cases heq
    obtain ⟨rfl, hds, -⟩ := of_takeDigits hdigits
    exact ⟨_, rfl, .some hds⟩
  · cases h
    exact ⟨[], rfl, .none⟩

theorem takeExponentSign_append {negative : Bool} {sign : List Char}
    (h : WritesExponentSign negative sign) (hds : AreDigits ds) :
    takeExponentSign (sign ++ ds) = (negative, ds) := by
  obtain ⟨hne, hds⟩ := hds
  obtain ⟨c, as, rfl⟩ := List.exists_cons_of_ne_nil hne
  have hc := (List.forall_mem_cons.1 hds).1
  cases h with
  | plus | minus => rfl
  | none =>
    rw [List.nil_append]
    unfold takeExponentSign
    split
    next heq =>
      cases heq
      cases hc
    next =>
      refine takeSign_signText false ?_
      rintro ⟨⟩
      cases hc

theorem exists_exponentSign (cs : List Char) : ∃ sign,
    cs = sign ++ (takeExponentSign cs).2 ∧ WritesExponentSign (takeExponentSign cs).1 sign := by
  unfold takeExponentSign
  split
  · exact ⟨['+'], rfl, .plus⟩
  · refine ⟨_, eq_signText_append _, ?_⟩
    cases (takeSign _).1 with
    | true => exact .minus
    | false => exact .none

theorem takeExponent_append {exponent : Option (Bool × List Char)}
    (h : WritesExponent exponent cs) : takeExponent cs = some (exponent, []) := by
  cases h with
  | none => rfl
  | some he hsign hds =>
    have hdigits := takeDigits_append hds noDigit_nil
    rw [List.append_nil] at hdigits
    rw [List.cons_append, takeExponent, if_pos he, takeExponentSign_append hsign hds, hdigits]
    rfl

theorem of_takeExponent {exponent : Option (Bool × List Char)}
    (h : takeExponent cs = some (exponent, rest)) :
    ∃ x, cs = x ++ rest ∧ WritesExponent exponent x := by
  cases cs with
  | nil =>
    cases h
    exact ⟨[], rfl, .none⟩
  | cons e cs =>
    rw [takeExponent] at h
    split at h
    next he =>
      obtain ⟨⟨ds, as⟩, hdigits, heq⟩ := Option.map_eq_some_iff.1 h
      cases heq
      obtain ⟨hcs, hds, -⟩ := of_takeDigits hdigits
      obtain ⟨sign, hsign, hwrites⟩ := exists_exponentSign cs
      refine ⟨e :: sign ++ ds, ?_, .some he hwrites hds⟩
      rw [List.cons_append, List.cons_append, List.append_assoc, ← hcs, ← hsign]
    next =>
      cases h
      exact ⟨[], rfl, .none⟩

/-! ## Numbers -/

/-- An exponent begins with neither a digit nor a point. -/
theorem WritesExponent.head? {exponent : Option (Bool × List Char)}
    (h : WritesExponent exponent cs) :
    NoDigit cs ∧ cs.head? ≠ Option.some '.' := by
  cases h with
  | none => exact ⟨noDigit_nil, by simp⟩
  | some he _ _ =>
    rcases he with rfl | rfl
    · exact ⟨noDigit_cons (by decide) _, by simp⟩
    · exact ⟨noDigit_cons (by decide) _, by simp⟩

/-- Neither does a fraction begin with a digit, whatever follows it. -/
theorem WritesFraction.noDigit_append {fraction : Option (List Char)}
    (h : WritesFraction fraction ds) (hrest : NoDigit rest) : NoDigit (ds ++ rest) := by
  cases h with
  | none => exact hrest
  | some _ => exact noDigit_cons (by decide) _

theorem IsWholePart.head?_append (h : IsWholePart ds) (rest : List Char) :
    (ds ++ rest).head? ≠ some '-' := by
  obtain ⟨hne, hds⟩ := h.areDigits
  obtain ⟨c, as, rfl⟩ := List.exists_cons_of_ne_nil hne
  have hc := (List.forall_mem_cons.1 hds).1
  rintro ⟨⟩
  cases hc

theorem parse?_of_writes (h : d.Writes cs) : parse? cs = some d := by
  obtain ⟨hwhole, hfraction, hexponent⟩ := h
  obtain ⟨hdigit, hpoint⟩ := hexponent.head?
  simp only [parse?, List.append_assoc, takeSign_signText _ (hwhole.head?_append _),
    takeWhole_append hwhole (hfraction.noDigit_append hdigit), Option.bind_eq_bind,
    Option.bind_some, takeFraction_append hfraction hdigit hpoint, takeExponent_append hexponent]
  rfl

theorem writes_of_parse? (h : parse? cs = some d) : d.Writes cs := by
  simp only [parse?, Option.bind_eq_bind, Option.bind_eq_some_iff, Prod.exists] at h
  obtain ⟨whole, cs₁, hwhole, fraction, cs₂, hfraction, exponent, cs₃, hexponent, hend⟩ := h
  split at hend
  next hempty =>
    cases hend
    obtain ⟨hcs, hw⟩ := of_takeWhole hwhole
    obtain ⟨f, rfl, hf⟩ := of_takeFraction hfraction
    obtain ⟨x, rfl, hx⟩ := of_takeExponent hexponent
    have hsign := eq_signText_append cs
    rw [hcs, List.isEmpty_iff.1 hempty, List.append_nil, ← List.append_assoc, ← List.append_assoc]
      at hsign
    have hwrites : Writes ⟨(takeSign cs).1, whole, fraction, exponent⟩ _ := .mk hw hf hx
    rwa [← hsign] at hwrites
  next => cases hend

/-- A text is read as a number exactly if it is a way to write it. -/
theorem parse?_eq_some_iff : parse? cs = some d ↔ d.Writes cs :=
  ⟨writes_of_parse?, parse?_of_writes⟩

/-- A text is a way to write one number at most. -/
theorem Writes.unique {d' : Decimal} (h : d.Writes cs) (h' : d'.Writes cs) : d = d' :=
  Option.some.inj ((parse?_of_writes h).symm.trans (parse?_of_writes h'))

/-- What holds of digits and of the marks between them holds of the characters of a number. -/
theorem Writes.forall {P : Char → Prop} (hdigit : ∀ c : Char, c.isDigit = true → P c)
    (hmark : ∀ c ∈ ['-', '+', '.', 'e', 'E'], P c) (h : d.Writes cs) : ∀ c ∈ cs, P c := by
  have hdigits {ds : List Char} (hds : AreDigits ds) : ∀ c ∈ ds, P c :=
    fun c hc ↦ hdigit c (hds.2 c hc)
  obtain @⟨negative, whole, _, _, f, x, hw, hf, hx⟩ := h
  simp only [List.forall_mem_append]
  refine ⟨⟨⟨?_, hdigits hw.areDigits⟩, ?_⟩, ?_⟩
  · cases negative with
    | false => exact List.forall_mem_nil _
    | true => exact List.forall_mem_singleton.2 (hmark _ (by decide))
  · cases hf with
    | none => exact List.forall_mem_nil _
    | some hds => exact List.forall_mem_cons.2 ⟨hmark _ (by decide), hdigits hds⟩
  · cases hx with
    | none => exact List.forall_mem_nil _
    | some he hsign hds =>
      refine List.forall_mem_append.2 ⟨List.forall_mem_cons.2 ⟨?_, ?_⟩, hdigits hds⟩
      · rcases he with rfl | rfl <;> exact hmark _ (by decide)
      · cases hsign with
        | none => exact List.forall_mem_nil _
        | plus => exact List.forall_mem_singleton.2 (hmark _ (by decide))
        | minus => exact List.forall_mem_singleton.2 (hmark _ (by decide))

theorem isWhole_iff : d.isWhole = true ↔ d.fraction = none ∧ d.exponent = none := by
  simp [isWhole]

/-- A number without sign is written as its parts. -/
theorem writes_unsigned {whole f x : List Char} {fraction : Option (List Char)}
    {exponent : Option (Bool × List Char)} (hw : IsWholePart whole) (hf : WritesFraction fraction f)
    (hx : WritesExponent exponent x) :
    Writes ⟨false, whole, fraction, exponent⟩ (whole ++ f ++ x) := by
  have hwrites : Writes _ (signText false ++ whole ++ f ++ x) := .mk hw hf hx
  exact hwrites

/-- A number is written as its sign and a number without sign. -/
theorem writes_iff : d.Writes cs ↔
    d.negative = (takeSign cs).1 ∧ Writes { d with negative := false } (takeSign cs).2 := by
  constructor
  · rintro ⟨hw, hf, hx⟩
    rw [List.append_assoc, List.append_assoc, takeSign_signText _ (hw.head?_append _),
      ← List.append_assoc]
    exact ⟨rfl, writes_unsigned hw hf hx⟩
  · obtain ⟨negative, whole, fraction, exponent⟩ := d
    rintro ⟨hneg, h⟩
    have hcs := eq_signText_append cs
    rw [← hneg] at hcs
    generalize (takeSign cs).2 = ds at h hcs
    subst hcs
    obtain ⟨hw, hf, hx⟩ := h
    rw [← List.append_assoc, ← List.append_assoc]
    exact .mk hw hf hx

end RecordGateway.Decimal
