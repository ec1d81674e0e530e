import RecordGateway.Field.Value
import RecordGateway.Proofs.Json.Numbers
import RecordGateway.Proofs.Json.Scanning
import RecordGateway.Proofs.Number.Exact
import RecordGateway.Proofs.Text.Slices

/-!
# Literals recognised by the places of their bytes

A recogniser that goes over the bytes of a literal with a place in hand, looks at single bytes and
cuts off what is behind a place.  A place behind the end, and a cut through a character, have no
result.  Nothing of that kind happens, and what is recognised is the same.
-/

namespace RecordGateway

namespace Cutting

open Json (byte isDigit latin)

/-! ## A recogniser with places -/

/-- The bytes from a place on, unless it is behind the end. -/
def from? (s : List UInt8) (i : Nat) : Option (List UInt8) :=
  if i ≤ s.length then some (s.drop i) else none

/-- The number of digits from a place on. -/
def digitsFrom? (s : List UInt8) (i : Nat) : Option Nat :=
  (from? s i).map fun t ↦ (t.takeWhile isDigit).length

/-- The place behind the digits from a place on, if there is a digit. -/
def digitsEnd? (s : List UInt8) (i : Nat) : Option (Option Nat) :=
  (digitsFrom? s i).map fun n ↦ if n = 0 then none else some (i + n)

/-- The place behind the whole part at the front, if there is one. -/
def wholeEnd? (s : List UInt8) : Option (Option Nat) :=
  match s[0]? with
  | none => some none
  | some b =>
    if b = byte '0' then some (some 1)
    else if isDigit b then (digitsFrom? s 1).map fun n ↦ some (1 + n)
    else some none

/-- The place behind the fraction at a place, which may be missing but not cut short. -/
def fractionEnd? (s : List UInt8) (i : Nat) : Option (Option Nat) :=
  if s[i]? = some (byte '.') then digitsEnd? s (i + 1) else some (some i)

/-- The place behind the exponent at a place, which may be missing but not cut short. -/
def exponentEnd? (s : List UInt8) (i : Nat) : Option (Option Nat) :=
  if s[i]? = some (byte 'e') ∨ s[i]? = some (byte 'E') then
    if s[i + 1]? = some (byte '+') ∨ s[i + 1]? = some (byte '-') then digitsEnd? s (i + 2)
    else digitsEnd? s (i + 1)
  else some (some i)

/-- Goes on from a place, if one was found. -/
def goOn (place : Option (Option Nat)) (next : Nat → Option (Option Nat)) : Option (Option Nat) :=
  match place with
  | none => none
  | some none => some none
  | some (some i) => next i

/-- Are bytes a whole part? -/
def isInteger? (s : List UInt8) : Option Bool := (wholeEnd? s).map (· == some s.length)

/-- Are bytes a number without sign? -/
def isNumber? (s : List UInt8) : Option Bool :=
  (goOn (goOn (wholeEnd? s) (fractionEnd? s)) (exponentEnd? s)).map (· == some s.length)

/-! ## Places and what is left -/

variable {α : Type} {s t : List UInt8}

/-- A part is found at the place behind `s` exactly if it is at the front of `t`, and the place
behind it is where the rest of `t` is. -/
inductive Finds (s t : List UInt8) : Option (α × List Char) → Option (Option Nat) → Prop
  | nothing : Finds s t none (some none)
  | part {p q a} (h : t = p ++ q) : Finds s t (some (a, q.map latin)) (some (some (s ++ p).length))

/-- A part that is missing is found where it is missing. -/
theorem Finds.missing (s t : List UInt8) (a : α) :
    Finds s t (some (a, t.map latin)) (some (some s.length)) := by
  have h := Finds.part (s := s) (a := a) (List.nil_append t).symm
  rwa [List.append_nil] at h

theorem from?_append (s t : List UInt8) : from? (s ++ t) s.length = some t := by
  rw [from?, if_pos (by simp), List.drop_left]

/-- The byte at the place behind `s`. -/
theorem getElem?_append_length (s t : List UInt8) : (s ++ t)[s.length]? = t.head? := by
  rw [List.getElem?_append_right (Nat.le_refl _), Nat.sub_self, List.head?_eq_getElem?]

/-- What is found behind bytes that are passed over is found with them in front. -/
theorem Finds.behind {β : Type} {p : List UInt8} {x : Option (α × List Char)}
    {y : Option (Option Nat)} (h : Finds (s ++ p) t x y) (f : α → β) :
    Finds s (p ++ t) (x.map fun r ↦ (f r.1, r.2)) y := by
  cases h with
  | nothing => exact .nothing
  | part h =>
    subst h
    rw [List.append_assoc]
    exact .part (List.append_assoc _ _ _).symm

theorem map_latin_takeWhile (t : List UInt8) :
    (t.map latin).takeWhile Char.isDigit = (t.takeWhile isDigit).map latin := by
  rw [List.takeWhile_map]
  congr 2
  funext b
  exact (Json.isDigit_eq_isDigit_latin b).symm

theorem map_latin_dropWhile (t : List UInt8) :
    (t.map latin).dropWhile Char.isDigit = (t.dropWhile isDigit).map latin := by
  rw [List.dropWhile_map]
  congr 2
  funext b
  exact (Json.isDigit_eq_isDigit_latin b).symm

theorem finds_digits (s t : List UInt8) :
    Finds s t (Decimal.takeDigits (t.map latin)) (digitsEnd? (s ++ t) s.length) := by
  rw [Decimal.takeDigits, map_latin_takeWhile, map_latin_dropWhile, digitsEnd?, digitsFrom?,
    from?_append, Option.map_some, Option.map_some]
  cases h : t.takeWhile isDigit with
  | nil => exact .nothing
  | cons b bs =>
    have hsplit : t = (b :: bs) ++ t.dropWhile isDigit := by
      rw [← h, List.takeWhile_append_dropWhile]
    have hpart := Finds.part (s := s) (a := (b :: bs).map latin) hsplit
    rw [List.length_append] at hpart
    exact hpart

theorem takeWhole_cons {c : Char} (hc : c ≠ '0') (cs : List Char) :
    Decimal.takeWhole (c :: cs) = Decimal.takeDigits (c :: cs) := by
  unfold Decimal.takeWhole
  split
  next h =>
    cases h
    exact absurd rfl hc
  next => rfl

theorem finds_whole (t : List UInt8) :
    Finds [] t (Decimal.takeWhole (t.map latin)) (wholeEnd? t) := by
  have hzero {b : UInt8} : latin b = '0' ↔ b = byte '0' := Json.latin_eq_iff (by decide)
  cases t with
  | nil => exact .nothing
  | cons b t =>
    rw [wholeEnd?, List.getElem?_cons_zero]
    by_cases hb : b = byte '0'
    · subst hb
      exact .part (p := [byte '0']) rfl
    rw [List.map_cons, takeWhole_cons (fun h ↦ hb (hzero.1 h)), ← List.map_cons,
      Decimal.takeDigits, map_latin_takeWhile, map_latin_dropWhile]
    simp only [if_neg hb]
    by_cases hdigit : isDigit b = true
    · have hcut := from?_append [b] t
      rw [List.takeWhile_cons_of_pos hdigit, List.dropWhile_cons_of_pos hdigit, if_pos hdigit,
        digitsFrom?]
      rw [List.length_singleton, List.singleton_append] at hcut
      rw [hcut]
      have hsplit : b :: t = (b :: t.takeWhile isDigit) ++ t.dropWhile isDigit := by
        rw [List.cons_append, List.takeWhile_append_dropWhile]
      have hpart := Finds.part (s := []) (a := (b :: t.takeWhile isDigit).map latin) hsplit
      rw [List.nil_append, List.length_cons, Nat.add_comm] at hpart
      exact hpart
    · rw [List.takeWhile_cons_of_neg hdigit, if_neg hdigit]
      exact .nothing

theorem finds_fraction (s t : List UInt8) :
    Finds s t (Decimal.takeFraction (t.map latin)) (fractionEnd? (s ++ t) s.length) := by
  have hpoint {b : UInt8} : latin b = '.' ↔ b = byte '.' := Json.latin_eq_iff (by decide)
  rw [fractionEnd?, getElem?_append_length]
  cases t with
  | nil =>
    rw [List.append_nil]
    exact .missing s [] none
  | cons b t =>
    simp only [List.head?_cons, Option.some.injEq]
    by_cases hb : b = byte '.'
    · subst hb
      have hdigits := (finds_digits (s ++ [byte '.']) t).behind some
      rw [List.append_assoc, List.length_append, List.singleton_append] at hdigits
      rw [if_pos rfl]
      exact hdigits
    · rw [if_neg hb, List.map_cons]
      unfold Decimal.takeFraction
      split
      next h =>
        obtain ⟨hp, -⟩ := List.cons.inj h
        exact absurd (hpoint.1 hp) hb
      next => exact .missing s (b :: t) none

/-- The digits of an exponent, with or without a sign in front. -/
theorem finds_exponentDigits (s t : List UInt8) :
    Finds s t (Decimal.takeDigits (Decimal.takeExponentSign (t.map latin)).2)
      (if t.head? = some (byte '+') ∨ t.head? = some (byte '-')
        then digitsEnd? (s ++ t) (s.length + 1) else digitsEnd? (s ++ t) s.length) := by
  have hplus {b : UInt8} : latin b = '+' ↔ b = byte '+' := Json.latin_eq_iff (by decide)
  have hminus {b : UInt8} : latin b = '-' ↔ b = byte '-' := Json.latin_eq_iff (by decide)
  cases t with
  | nil => exact finds_digits s []
  | cons b t =>
    simp only [List.head?_cons, Option.some.injEq]
    by_cases hb : b = byte '+' ∨ b = byte '-'
    · have hdigits := (finds_digits (s ++ [b]) t).behind id
      rw [List.append_assoc, List.length_append, List.singleton_append] at hdigits
      have hsign : (Decimal.takeExponentSign ((b :: t).map latin)).2 = t.map latin := by
        rcases hb with rfl | rfl <;> rfl
      rw [if_pos hb, hsign]
      simpa using hdigits
    · have hsign : (Decimal.takeExponentSign ((b :: t).map latin)).2 = (b :: t).map latin := by
        rw [List.map_cons]
        unfold Decimal.takeExponentSign
        split
        next h => exact absurd (.inl (hplus.1 (List.cons.inj h).1)) hb
        unfold Decimal.takeSign
        split
        next h => exact absurd (.inr (hminus.1 (List.cons.inj h).1)) hb
        next => rfl
      rw [if_neg hb, hsign]
      exact finds_digits s (b :: t)

theorem finds_exponent (s t : List UInt8) :
    Finds s t (Decimal.takeExponent (t.map latin)) (exponentEnd? (s ++ t) s.length) := by
  have hlower {b : UInt8} : latin b = 'e' ↔ b = byte 'e' := Json.latin_eq_iff (by decide)
  have hupper {b : UInt8} : latin b = 'E' ↔ b = byte 'E' := Json.latin_eq_iff (by decide)
  rw [exponentEnd?, getElem?_append_length]
  cases t with
  | nil =>
    rw [List.append_nil]
    exact .missing s [] none
  | cons b t =>
    simp only [List.head?_cons, Option.some.injEq, List.map_cons, Decimal.takeExponent, hlower,
      hupper]
    by_cases hb : b = byte 'e' ∨ b = byte 'E'
    · have hdigits := (finds_exponentDigits (s ++ [b]) t).behind fun ds ↦
        some ((Decimal.takeExponentSign (t.map latin)).1, ds)
      have hnext := getElem?_append_length (s ++ [b]) t
      rw [List.append_assoc, List.length_append, List.singleton_append] at hdigits hnext
      rw [if_pos hb, if_pos hb]
      rw [List.length_singleton] at hnext hdigits
      rw [hnext]
      exact hdigits
    · rw [if_neg hb, if_neg hb]
      exact .missing s (b :: t) none

/-! ## Numbers -/

theorem length_beq_append (s t : List UInt8) : (s.length == (s ++ t).length) = t.isEmpty := by
  cases t with
  | nil => simp
  | cons b t => simp

theorem isInteger?_eq (s : List UInt8) :
    isInteger? s = some ((Decimal.takeWhole (s.map latin)).any (·.2.isEmpty)) := by
  have hwhole := finds_whole s
  rw [isInteger?]
  generalize Decimal.takeWhole (s.map latin) = x at hwhole ⊢
  generalize wholeEnd? s = y at hwhole ⊢
  cases hwhole with
  | nothing => rfl
  | @part p q _ h =>
    subst h
    simp only [List.nil_append, Option.map_some, Option.some_beq_some, length_beq_append,
      Option.any_some, List.isEmpty_map]

theorem isNumber?_eq (h : Decimal.takeSign (s.map latin) = (false, s.map latin)) :
    isNumber? s = some (Decimal.parse? (s.map latin)).isSome := by
  have hwhole := finds_whole s
  rw [isNumber?, Decimal.parse?, h]
  generalize Decimal.takeWhole (s.map latin) = x at hwhole ⊢
  generalize wholeEnd? s = y at hwhole ⊢
  cases hwhole with
  | nothing => rfl
  | @part p q _ h =>
    subst h
    have hfraction := finds_fraction p q
    simp only [List.nil_append, goOn, Option.bind_eq_bind, Option.bind_some]
    generalize Decimal.takeFraction (q.map latin) = x at hfraction ⊢
    generalize fractionEnd? (p ++ q) p.length = y at hfraction ⊢
    cases hfraction with
    | nothing => rfl
    | @part p' q _ h =>
      subst h
      have hexponent := finds_exponent (p ++ p') q
      simp only [Option.bind_some, List.append_assoc] at hexponent ⊢
      generalize Decimal.takeExponent (q.map latin) = x at hexponent ⊢
      generalize exponentEnd? (p ++ (p' ++ q)) (p ++ p').length = y at hexponent ⊢
      cases hexponent with
      | nothing => rfl
      | @part p'' q _ h =>
        subst h
        have hend := length_beq_append (p ++ p' ++ p'') q
        simp only [List.append_assoc] at hend
        simp only [Option.map_some, Option.some_beq_some, List.append_assoc, hend, Option.bind_some,
          List.isEmpty_map]
        split <;> simp_all

/-- Nothing is cut off behind the end, and what is recognised as a whole part is one. -/
theorem exists_isInteger? (s : List UInt8) :
    ∃ b, isInteger? s = some b ∧ (b = true ↔ Json.IsWhole s) := by
  refine ⟨_, isInteger?_eq s, ?_⟩
  rw [Json.isWhole_iff, Option.any_eq_true]
  constructor
  · rintro ⟨⟨whole, rest⟩, hwhole, hrest⟩
    obtain ⟨hs, hw⟩ := Decimal.of_takeWhole hwhole
    obtain rfl : rest = [] := List.isEmpty_iff.1 hrest
    rwa [hs, List.append_nil]
  · intro h
    have hwhole := Decimal.takeWhole_append h Decimal.noDigit_nil
    rw [List.append_nil] at hwhole
    exact ⟨_, hwhole, rfl⟩

/-- Nothing is cut off behind the end, and what is recognised as a number without sign is one. -/
theorem exists_isNumber? (s : List UInt8) :
    ∃ b, isNumber? s = some b ∧ (b = true ↔ Json.IsUnsigned s) := by
  have hminus {b : UInt8} : latin b = '-' ↔ b = byte '-' := Json.latin_eq_iff (by decide)
  by_cases hs : s.head? = some (byte '-')
  · -- a minus sign begins no number without sign
    obtain ⟨t, rfl⟩ := List.head?_eq_some_iff.1 hs
    refine ⟨false, rfl, ?_⟩
    constructor
    · intro h
      cases h
    · intro h
      obtain ⟨b, t, heq, hb⟩ := h.exists_cons
      cases heq
      cases hb
  · have h : Decimal.takeSign (s.map latin) = (false, s.map latin) := by
      unfold Decimal.takeSign
      split
      next h =>
        obtain ⟨b, t, rfl, hb, -⟩ := List.map_eq_cons_iff.1 h
        exact absurd (congrArg some (hminus.1 hb)) hs
      next => rfl
    refine ⟨_, isNumber?_eq h, ?_⟩
    rw [Json.isUnsigned_iff, Option.isSome_iff_exists]
    refine exists_congr fun d ↦ ?_
    rw [Decimal.parse?_eq_some_iff, iff_and_self]
    intro hd
    rw [(Decimal.writes_iff.1 hd).1, h]

/-! ## Numbers in texts -/

/-- The bytes of a text behind the sign that may stand in front. -/
def unsignedBytes (cs : List Char) : List UInt8 :=
  Text.Utf8.encode (String.ofList (Decimal.takeSign cs).2)

/-- Behind its sign a text is a number without sign, if it is a number. -/
theorem exists_writes_iff {cs : List Char} {P : List UInt8 → Prop} {Holds : Decimal → Prop}
    (hsign : ∀ (d : Decimal) (negative : Bool), Holds d → Holds { d with negative })
    (h : ∀ s, P s ↔ ∃ d : Decimal, d.negative = false ∧ Holds d ∧ d.Writes (s.map latin)) :
    P (unsignedBytes cs) ↔ ∃ d : Decimal, Holds d ∧ d.Writes cs := by
  rw [h, unsignedBytes]
  simp only [Json.writes_latin_iff, String.toList_ofList]
  constructor
  · rintro ⟨⟨_, whole, fraction, exponent⟩, rfl, hd, hwrites⟩
    exact ⟨_, hsign _ (Decimal.takeSign cs).1 hd, Decimal.writes_iff.2 ⟨rfl, hwrites⟩⟩
  · rintro ⟨d, hd, hwrites⟩
    exact ⟨_, rfl, hsign d false hd, (Decimal.writes_iff.1 hwrites).2⟩

theorem isWhole_unsignedBytes_iff {cs : List Char} : Json.IsWhole (unsignedBytes cs) ↔
    ∃ d : Decimal, d.isWhole = true ∧ d.Writes cs :=
  exists_writes_iff (fun _ _ h ↦ h) fun _ ↦ Json.isWhole_iff_exists

theorem isUnsigned_unsignedBytes_iff {cs : List Char} : Json.IsUnsigned (unsignedBytes cs) ↔
    ∃ d : Decimal, d.Writes cs := by
  have h : Json.IsUnsigned (unsignedBytes cs) ↔ ∃ d : Decimal, True ∧ d.Writes cs :=
    exists_writes_iff (fun _ _ _ ↦ trivial) fun _ ↦ by
      simpa only [true_and] using Json.isUnsigned_iff
  simpa only [true_and] using h

end Cutting

namespace Value

open Cutting

/-- The integer that a text is, if it fits. -/
def integer? (cs : List Char) : Option Value :=
  (Decimal.parse? cs).bind fun d ↦
    if inInt64 d.toInt then some (.int (Int64.ofInt d.toInt)) else none

/-- The double nearest to the number that a text is, if it is finite. -/
def double? (cs : List Char) : Option Value :=
  (Decimal.parse? cs).bind fun d ↦
    if (Binary64.ofDecimal d).isFinite then some (.float (Binary64.ofDecimal d)) else none

/-- What stands between the first and the last byte of a text that begins with a quote and ends with
another. -/
def unquoteCutting? (cs : List Char) : Option (Option Value) :=
  if 2 ≤ Text.byteCount cs ∧ cs.head? = some '"' ∧ cs.getLast? = some '"' then
    (Text.slice? cs 1 (Text.byteCount cs - 1)).map fun s ↦ some (.string (String.ofList s))
  else some none

/-- The value of a literal without blanks around it, with no result where a place is behind the end
or a cut goes through a character. -/
def ofTrimmedCutting? (cs : List Char) : Option (Option Value) :=
  if cs = "null".toList then some (some .null)
  else if cs = "true".toList then some (some (.bool true))
  else if cs = "false".toList then some (some (.bool false))
  else
    match isInteger? (unsignedBytes cs) with
    | none => none
    | some true => some (integer? cs)
    | some false =>
      match isNumber? (unsignedBytes cs) with
      | none => none
      | some true => some (double? cs)
      | some false => unquoteCutting? cs

/-- The value of a literal, recognised by the places of its bytes. -/
def inferCutting (raw : String) : Option (Except Unrecognised Value) :=
  (ofTrimmedCutting? (Text.trim raw.toList)).map fun
    | some v => .ok v
    | none => .error ⟨raw⟩

/-- A text between quotes is what stands between a first and a last quote. -/
theorem unquote?_eq_some_iff {cs s : List Char} :
    unquote? cs = some s ↔ cs = '"' :: s ++ ['"'] := by
  constructor
  · intro h
    unfold unquote? at h
    split at h
    · split at h
      next hlast =>
        cases h
        obtain ⟨ds, rfl⟩ := List.getLast?_eq_some_iff.1 hlast
        rw [List.dropLast_concat, List.cons_append]
      next => cases h
    · cases h
  · rintro rfl
    simp [unquote?]

/-- The quotes of a text can be cut off. -/
theorem unquoteCutting?_eq (cs : List Char) :
    unquoteCutting? cs = some ((unquote? cs).map fun s ↦ .string (String.ofList s)) := by
  cases h : unquote? cs with
  | some s =>
    obtain rfl := unquote?_eq_some_iff.1 h
    have hslice := Text.slice?_append ['"'] s ['"']
    have hquote : Text.byteCount ['"'] = 1 := by decide
    have hcount : Text.byteCount ('"' :: s ++ ['"']) = Text.byteCount s + 2 := by
      rw [← List.singleton_append, Text.byteCount_append, Text.byteCount_append, hquote]
      omega
    have hstop : Text.byteCount s + 2 - 1 = 1 + Text.byteCount s := by omega
    rw [hquote, List.singleton_append, ← List.cons_append] at hslice
    rw [unquoteCutting?, hcount, hstop, hslice, if_pos ⟨by omega, rfl, List.getLast?_concat⟩]
    rfl
  | none =>
    rw [unquoteCutting?, if_neg]
    · rfl
    rintro ⟨hcount, hhead, hlast⟩
    obtain ⟨ds, rfl⟩ := List.head?_eq_some_iff.1 hhead
    obtain rfl | ⟨es, c, rfl⟩ := List.eq_nil_or_concat ds
    · exact absurd hcount (by decide)
    · rw [List.concat_eq_append, ← List.cons_append, List.getLast?_concat] at hlast
      cases hlast
      have hsome := unquote?_eq_some_iff.2 (rfl : '"' :: es ++ ['"'] = _)
      rw [List.concat_eq_append, ← List.cons_append, hsome] at h
      cases h

theorem ofTrimmedCutting?_eq (cs : List Char) : ofTrimmedCutting? cs = some (ofTrimmed? cs) := by
  obtain ⟨isInteger, hinteger, hisInteger⟩ := exists_isInteger? (unsignedBytes cs)
  obtain ⟨isNumber, hnumber, hisNumber⟩ := exists_isNumber? (unsignedBytes cs)
  rw [isWhole_unsignedBytes_iff] at hisInteger
  rw [isUnsigned_unsignedBytes_iff] at hisNumber
  rw [ofTrimmedCutting?, ofTrimmed?, hinteger, hnumber]
  split
  · rfl
  split
  · rfl
  split
  · rfl
  cases hparse : Decimal.parse? cs with
  | none =>
    have hnone : ∀ d : Decimal, ¬d.Writes cs := by
      intro d hd
      rw [Decimal.parse?_of_writes hd] at hparse
      cases hparse
    have hno : isNumber = false := by
      rw [Bool.eq_false_iff]
      exact fun h ↦ (hisNumber.1 h).elim hnone
    have hno' : isInteger = false := by
      rw [Bool.eq_false_iff]
      exact fun h ↦ (hisInteger.1 h).elim fun d hd ↦ hnone d hd.2
    rw [hno, hno']
    exact unquoteCutting?_eq cs
  | some d =>
    have hd := Decimal.writes_of_parse? hparse
    have hyes : isNumber = true := hisNumber.2 ⟨d, hd⟩
    have hwhole : isInteger = d.isWhole := by
      rw [Bool.eq_iff_iff, hisInteger]
      constructor
      · rintro ⟨d', hwhole, hd'⟩
        rwa [hd.unique hd']
      · exact fun h ↦ ⟨d, h, hd⟩
    rw [hyes, hwhole]
    simp only [ofDecimal?, integer?, double?, hparse, Option.bind_some]
    cases d.isWhole <;> rfl

/-- A recogniser that goes by places cuts nowhere else than it may, and recognises the same. -/
theorem inferCutting_eq (raw : String) : inferCutting raw = some (infer raw) := by
  rw [inferCutting, infer, ofTrimmedCutting?_eq]
  cases ofTrimmed? (Text.trim raw.toList) <;> rfl

end Value

end RecordGateway
