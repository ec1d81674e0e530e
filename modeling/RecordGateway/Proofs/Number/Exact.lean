import Mathlib.Data.List.Induction
import Mathlib.Tactic.FieldSimp
import Mathlib.Tactic.Ring
import RecordGateway.Proofs.Number.Decimal

/-!
# What written numbers stand for

A written number stands for a fraction, and one without fraction and exponent for an integer.  Every
integer is printed as a number that stands for it.
-/

namespace RecordGateway.Decimal

/-! ## Digits -/

/-- Digits that follow others make them greater by as many powers of ten. -/
theorem ofDigits_append (cs ds : List Char) :
    ofDigits (cs ++ ds) = ofDigits cs * 10 ^ ds.length + ofDigits ds := by
  induction ds using List.reverseRecOn with
  | nil => simp
  | append_singleton ds c ih =>
    rw [← List.append_assoc, ofDigits_append_singleton, ih, ofDigits_append_singleton,
      List.length_append, List.length_singleton, pow_succ]
    ring

@[simp] theorem ofDigits_toDigits (n : Nat) : ofDigits (Nat.toDigits 10 n) = n :=
  Nat.ofDigitChars_ten_toDigits

theorem IsWholePart.append {cs ds : List Char} (hcs : IsWholePart cs) (hne : cs ≠ ['0'])
    (hds : ∀ c ∈ ds, c.isDigit = true) : IsWholePart (cs ++ ds) := by
  cases hcs with
  | zero => exact absurd rfl hne
  | digits hc hzero hcs =>
    exact .digits hc hzero fun a ha ↦ (List.mem_append.1 ha).elim (hcs a) (hds a)

/-- No number but zero is printed as a zero. -/
theorem toDigits_ne_zero {n : Nat} (h : n ≠ 0) : Nat.toDigits 10 n ≠ ['0'] := by
  intro hzero
  have hvalue := ofDigits_toDigits n
  rw [hzero] at hvalue
  exact h hvalue.symm

/-- A number is printed without needless zeros in front. -/
theorem isWholePart_toDigits (n : Nat) : IsWholePart (Nat.toDigits 10 n) := by
  have hdigit (m : Nat) : ∀ c ∈ Nat.toDigits 10 m, c.isDigit = true :=
    fun c hc ↦ Nat.isDigit_of_mem_toDigits (by decide) (by decide) hc
  induction n using Nat.strongRecOn with
  | ind n ih =>
    by_cases hzero : n = 0
    · subst hzero
      exact .zero
    by_cases hn : n < 10
    · have hne := toDigits_ne_zero hzero
      have hdigits := hdigit n
      rw [Nat.toDigits_of_lt_base hn] at hne hdigits ⊢
      exact .digits (hdigits _ (.head _)) (fun h ↦ hne (by rw [h])) fun a ha ↦ by cases ha
    · have hlast : ∀ c ∈ [(n % 10).digitChar], c.isDigit = true := by
        rw [← Nat.toDigits_of_lt_base (Nat.mod_lt n (by decide))]
        exact hdigit _
      rw [Nat.toDigits_of_base_le (by decide) (Nat.le_of_not_lt hn)]
      exact (ih (n / 10) (by omega)).append (toDigits_ne_zero (by omega)) hlast

/-! ## Values -/

variable {d : Decimal}

/-- What a number stands for, its sign aside. -/
def magnitude (d : Decimal) : ℚ :=
  (ofDigits d.whole + ofDigits (d.fraction.getD []) / 10 ^ (d.fraction.getD []).length)
    * 10 ^ d.exponentValue

/-- What a number stands for. -/
def value (d : Decimal) : ℚ := if d.negative then -d.magnitude else d.magnitude

/-- The digits on both sides of the point, as one number, are out by a power of ten. -/
theorem magnitude_eq (d : Decimal) : d.magnitude = d.coefficient * 10 ^ d.scale := by
  have hpow : (10 : ℚ) ^ d.scale
      = 10 ^ d.exponentValue / 10 ^ (d.fraction.getD []).length := by
    rw [scale, zpow_sub₀ (by norm_num), zpow_natCast]
  rw [magnitude, coefficient, ofDigits_append, hpow]
  push_cast
  field_simp

/-- A number without fraction and exponent stands for an integer. -/
theorem value_of_isWhole (h : d.isWhole = true) : d.value = d.toInt := by
  obtain ⟨negative, whole, fraction, exponent⟩ := d
  obtain ⟨rfl, rfl⟩ := isWhole_iff.1 h
  cases negative <;> simp [value, magnitude, toInt, exponentValue]

/-! ## Printed integers -/

/-- The number that an integer is printed as. -/
def ofInt (n : Int) : Decimal := ⟨n < 0, Nat.toDigits 10 n.natAbs, none, none⟩

theorem isWhole_ofInt (n : Int) : (ofInt n).isWhole = true := rfl

theorem toInt_ofInt (n : Int) : (ofInt n).toInt = n := by
  simp only [toInt, ofInt, ofDigits_toDigits, decide_eq_true_eq]
  split <;> omega

theorem toList_toString (n : Int) :
    (toString n).toList = signText (n < 0) ++ Nat.toDigits 10 n.natAbs := by
  rw [Int.toString_eq_repr, Int.repr_eq_if]
  by_cases h : n < 0
  · have habs : (-n).toNat = n.natAbs := by omega
    rw [if_neg (by omega), habs]
    simp [signText, h]
  · have habs : n.toNat = n.natAbs := by omega
    rw [if_pos (by omega), habs]
    simp [signText, h]

theorem writes_toString (n : Int) : (ofInt n).Writes (toString n).toList := by
  have hwrites : (ofInt n).Writes _ := .mk (isWholePart_toDigits n.natAbs) .none .none
  rwa [List.append_nil, List.append_nil, ← toList_toString] at hwrites

end RecordGateway.Decimal
