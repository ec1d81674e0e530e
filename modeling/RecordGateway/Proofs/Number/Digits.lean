import RecordGateway.Proofs.Number.Exact

/-!
# Rows of digits

A row of digits stands for a number if it is the one that the number is printed with, behind zeros.
Read digit by digit in words of 64 bits, it is what it stands for, or nothing if that does not fit
into a word: no step is taken whose product or sum leaves the word.
-/

namespace RecordGateway.Decimal

variable {ds : List Char}

/-! ## Zeros in front -/

/-- A digit is what its value is printed with. -/
theorem toDigits_of_isDigit {c : Char} (h : c.isDigit = true) :
    c.toNat - 48 < 10 ∧ Nat.toDigits 10 (c.toNat - 48) = [c] := by
  obtain ⟨hlow, hhigh⟩ := Char.isDigit_iff_toNat.1 h
  have hzero : '0'.toNat = 48 := rfl
  have hnine : '9'.toNat = 57 := rfl
  have hlt : c.toNat - 48 < 10 := by omega
  have hnumber : (c.toNat - 48).digitChar.toNat = c.toNat := by
    rw [Nat.toNat_digitChar_of_lt_ten hlt]
    omega
  rw [Nat.toDigits_of_lt_base hlt, Char.toNat_inj.1 hnumber]
  exact ⟨hlt, rfl⟩

theorem exists_zeros (hds : AreDigits ds) :
    ∃ zeros, ds = List.replicate zeros '0' ++ Nat.toDigits 10 (ofDigits ds) := by
  obtain ⟨hne, hds⟩ := hds
  induction ds using List.reverseRecOn with
  | nil => exact absurd rfl hne
  | append_singleton ds c ih =>
    obtain ⟨hds, hc⟩ := List.forall_mem_append.1 hds
    obtain ⟨hlt, hdigit⟩ := toDigits_of_isDigit (hc c (.head _))
    rw [ofDigits_append_singleton]
    by_cases hvalue : ofDigits ds = 0
    · -- nothing but zeros stands in front of the last digit
      rw [hvalue, Nat.mul_zero, Nat.zero_add, hdigit]
      cases ds with
      | nil => exact ⟨0, rfl⟩
      | cons d ds =>
        obtain ⟨zeros, heq⟩ := ih (List.cons_ne_nil _ _) hds
        rw [hvalue] at heq
        refine ⟨zeros + 1, ?_⟩
        rw [List.replicate_succ', heq]
        rfl
    · have hne : ds ≠ [] := by
        rintro rfl
        exact hvalue rfl
      obtain ⟨zeros, heq⟩ := ih hne hds
      refine ⟨zeros, ?_⟩
      rw [← Nat.toDigits_append_toDigits (by decide) (Nat.pos_of_ne_zero hvalue) hlt, hdigit,
        ← List.append_assoc, ← heq]

theorem ofDigits_zeros_append (zeros : Nat) (ds : List Char) :
    ofDigits (List.replicate zeros '0' ++ ds) = ofDigits ds := by
  have hzeros : ofDigits (List.replicate zeros '0') = 0 := by
    induction zeros with
    | zero => rfl
    | succ zeros ih =>
      rw [List.replicate_succ', ofDigits_append_singleton, ih]
      rfl
  rw [ofDigits_append, hzeros, Nat.zero_mul, Nat.zero_add]

/-- Digits stand for a number if they are those that it is printed with, behind zeros. -/
theorem ofDigits_eq_iff (hds : AreDigits ds) {n : Nat} :
    ofDigits ds = n ↔ ∃ zeros, ds = List.replicate zeros '0' ++ Nat.toDigits 10 n := by
  constructor
  · rintro rfl
    exact exists_zeros hds
  · rintro ⟨zeros, rfl⟩
    rw [ofDigits_zeros_append, ofDigits_toDigits]

/-! ## Words of 64 bits -/

/-- Puts a digit behind a number, unless the product or the sum does not fit into a word. -/
def pushDigit? (n : UInt64) (c : Char) : Option UInt64 :=
  if n.toNat * 10 < UInt64.size then
    let tens := n * 10
    let digit := UInt64.ofNat (c.toNat - 48)
    if tens.toNat + digit.toNat < UInt64.size then some (tens + digit) else none
  else none

/-- The number that a row of digits stands for, read digit by digit. -/
def readDigits? (ds : List Char) : Option UInt64 := ds.foldlM pushDigit? 0

theorem toNat_mul_ten {n : UInt64} (h : n.toNat * 10 < UInt64.size) :
    (n * 10).toNat = n.toNat * 10 := by
  rw [UInt64.toNat_mul]
  exact Nat.mod_eq_of_lt h

theorem pushDigit?_eq_some_iff {n m : UInt64} {c : Char} (hc : c.isDigit = true) :
    pushDigit? n c = some m ↔ m.toNat = n.toNat * 10 + (c.toNat - 48) := by
  have hm : m.toNat < UInt64.size := m.toNat_lt_size
  have hdigit : (UInt64.ofNat (c.toNat - 48)).toNat = c.toNat - 48 :=
    UInt64.toNat_ofNat_of_lt' (Nat.lt_trans (toDigits_of_isDigit hc).1 (by decide))
  rw [pushDigit?]
  split
  next hmul =>
    simp only [toNat_mul_ten hmul, hdigit]
    split
    next hadd =>
      have hsum : (n * 10 + UInt64.ofNat (c.toNat - 48)).toNat = n.toNat * 10 + (c.toNat - 48) := by
        rw [UInt64.toNat_add, toNat_mul_ten hmul, hdigit]
        exact Nat.mod_eq_of_lt hadd
      rw [Option.some.injEq, ← UInt64.toNat_inj, hsum, eq_comm]
    next hadd =>
      simp only [reduceCtorEq, false_iff]
      omega
  next hmul =>
    simp only [reduceCtorEq, false_iff]
    omega

theorem readDigits?_concat (ds : List Char) (c : Char) :
    readDigits? (ds ++ [c]) = (readDigits? ds).bind (pushDigit? · c) := by
  rw [readDigits?, List.foldlM_append, readDigits?]
  simp

/-- Digits are read as what they stand for, and not at all if that does not fit into a word. -/
theorem readDigits?_eq_some_iff (hds : ∀ c ∈ ds, c.isDigit = true) {n : UInt64} :
    readDigits? ds = some n ↔ ofDigits ds = n.toNat := by
  induction ds using List.reverseRecOn generalizing n with
  | nil =>
    rw [readDigits?, List.foldlM_nil, ofDigits_nil, ← UInt64.toNat_zero, UInt64.toNat_inj]
    exact Option.some_inj
  | append_singleton ds c ih =>
    obtain ⟨hds, hc⟩ := List.forall_mem_append.1 hds
    rw [readDigits?_concat, Option.bind_eq_some_iff, ofDigits_append_singleton]
    simp only [ih hds, pushDigit?_eq_some_iff (hc c (.head _))]
    constructor
    · rintro ⟨m, hm, hn⟩
      omega
    · intro hn
      -- the digits in front stand for no more than all of them
      have hlt : ofDigits ds < UInt64.size := by
        have hword : n.toNat < UInt64.size := n.toNat_lt_size
        omega
      have hfront : (UInt64.ofNat (ofDigits ds)).toNat = ofDigits ds :=
        UInt64.toNat_ofNat_of_lt' hlt
      refine ⟨UInt64.ofNat (ofDigits ds), hfront.symm, ?_⟩
      omega

end RecordGateway.Decimal
