import Mathlib.Data.Nat.Cast.Order.Field
import Mathlib.Tactic.FieldSimp
import Mathlib.Tactic.Linarith
import Mathlib.Tactic.NormNum
import Mathlib.Tactic.Positivity
import Mathlib.Tactic.Ring
import RecordGateway.Number.Binary64
import RecordGateway.Proofs.Number.Exact

/-!
# Rounding to the nearest double

The bits below the sign of doubles, read as numbers, ascend as the doubles do, and the doubles from
one power of two up to the next are a grid.  So the double nearest to a fraction is found by
dividing it by the width of the grid.
-/

namespace RecordGateway.Binary64

/-! ## What magnitudes stand for -/

/-- What a magnitude stands for.  Infinity stands for the power of two behind the finite doubles. -/
def worth (m : Nat) : ℚ :=
  if m < binade then m * 2 ^ (-1074 : Int)
  else (m % binade + binade : Nat) * 2 ^ (((m / binade : Nat) : Int) - 1075)

/-- What a double stands for, its sign aside. -/
def abs (x : Binary64) : ℚ := x.significand * 2 ^ x.power

theorem abs_eq_worth (x : Binary64) : x.abs = worth x.magnitude := by
  unfold abs worth significand power
  split <;> rfl

/-- The doubles with the same exponent, and the next one behind them, are a grid. -/
theorem worth_grid {b r : Nat} (hr : r ≤ 2 * binade) (hb : b = 0 ∨ binade ≤ r) :
    worth (b * binade + r) = r * 2 ^ ((b : Int) - 1074) := by
  unfold binade at hr hb
  unfold worth binade
  by_cases hsmall : b * 4503599627370496 + r < 4503599627370496
  · have hzero : b = 0 := by omega
    subst hzero
    rw [if_pos hsmall, Nat.zero_mul, Nat.zero_add]
    norm_num
  rw [if_neg hsmall]
  by_cases htop : r = 2 * 4503599627370496
  · have hmod : (b * 4503599627370496 + r) % 4503599627370496 = 0 := by omega
    have hdiv : (b * 4503599627370496 + r) / 4503599627370496 = b + 2 := by omega
    rw [hmod, hdiv, htop]
    have hpow : (2 : ℚ) ^ (((b + 2 : Nat) : Int) - 1075) = 2 * 2 ^ ((b : Int) - 1074) := by
      rw [← zpow_one_add₀ (by norm_num)]
      congr 1
      omega
    rw [hpow]
    push_cast
    ring
  · have hmod : (b * 4503599627370496 + r) % 4503599627370496 + 4503599627370496 = r := by omega
    have hdiv : (b * 4503599627370496 + r) / 4503599627370496 = b + 1 := by omega
    rw [hmod, hdiv]
    congr 2
    omega

/-- Every magnitude lies on one of the grids, and not at its end. -/
theorem exists_grid (m : Nat) :
    ∃ b r, m = b * binade + r ∧ r < 2 * binade ∧ (b = 0 ∨ binade ≤ r) := by
  unfold binade
  by_cases hm : m < 4503599627370496
  · exact ⟨0, m, by omega, by omega, .inl rfl⟩
  · exact ⟨m / 4503599627370496 - 1, m % 4503599627370496 + 4503599627370496, by omega, by omega,
      .inr (by omega)⟩

theorem worth_strictMono : StrictMono worth := by
  apply strictMono_nat_of_lt_succ
  intro m
  obtain ⟨b, r, rfl, hr, hb⟩ := exists_grid m
  rw [Nat.add_assoc, worth_grid hr.le hb, worth_grid hr (hb.imp_right Nat.le_succ_of_le)]
  have hstep : (0 : ℚ) < 2 ^ ((b : Int) - 1074) := zpow_pos two_pos _
  push_cast
  linarith

@[simp] theorem worth_zero : worth 0 = 0 := by
  simp [worth, binade]

theorem worth_infinityBits : worth infinityBits = 2 ^ 1024 := by
  have hgrid := worth_grid (b := 2046) (r := binade) (by omega) (.inr le_rfl)
  have hbits : infinityBits = 2046 * binade + binade := rfl
  have hbinade : (binade : ℚ) = 2 ^ 52 := by norm_num [binade]
  rw [hbits, hgrid, hbinade]
  have hexp : ((2046 : Nat) : Int) - 1074 = (972 : Nat) := rfl
  rw [hexp, zpow_natCast, ← pow_add]

/-- The greatest finite double is one step below. -/
theorem worth_pred_infinityBits : worth (infinityBits - 1) = 2 ^ 1024 - 2 * 2 ^ 970 := by
  have hgrid := worth_grid (b := 2045) (r := 2 * binade - 1) (Nat.sub_le _ _)
    (.inr (by unfold binade; omega))
  have hbits : infinityBits - 1 = 2045 * binade + (2 * binade - 1) := rfl
  have hbinade : ((2 * binade - 1 : Nat) : ℚ) = 2 ^ 53 - 1 := by norm_num [binade]
  have hexp : ((2045 : Nat) : Int) - 1074 = (971 : Nat) := rfl
  rw [hbits, hgrid, hbinade, hexp, zpow_natCast, sub_mul, ← pow_add, one_mul, ← pow_succ']

/-! ## The nearest magnitude -/

/-- No magnitude up to that of infinity is nearer to a number, and if another one is as near then
this one is even. -/
structure IsNearest (v : ℚ) (m : Nat) : Prop where
  le : m ≤ infinityBits
  near : ∀ k ≤ infinityBits, |worth m - v| ≤ |worth k - v|
  even : ∀ k ≤ infinityBits, k ≠ m → |worth k - v| = |worth m - v| → m % 2 = 0

variable {v : ℚ} {a m : Nat}

theorem isNearest_infinityBits (h : worth infinityBits ≤ v) : IsNearest v infinityBits where
  le := le_rfl
  near k hk := by
    have hle := worth_strictMono.monotone hk
    rw [abs_of_nonpos (by linarith), abs_of_nonpos (by linarith)]
    linarith
  even _ _ _ _ := rfl

/-- One of the two neighbours of a number: the nearer one, or the even one if both are as near. -/
inductive IsRounded (v : ℚ) (a : Nat) : Nat → Prop
  | down (hle : v - worth a ≤ worth (a + 1) - v)
      (heven : v - worth a = worth (a + 1) - v → a % 2 = 0) : IsRounded v a a
  | up (hle : worth (a + 1) - v ≤ v - worth a)
      (heven : v - worth a = worth (a + 1) - v → (a + 1) % 2 = 0) : IsRounded v a (a + 1)

/-- Of the neighbours of a number, and all other magnitudes, none is nearer than the rounded one. -/
theorem IsRounded.isNearest (h : IsRounded v a m) (hlow : worth a ≤ v) (hhigh : v < worth (a + 1)) :
    IsNearest v (min infinityBits m) := by
  by_cases hm : m ≤ infinityBits
  · rw [Nat.min_eq_right hm]
    -- a magnitude is not above the lower neighbour or not below the upper one
    have hside (k : Nat) : |worth k - v| = v - worth k ∧ worth k ≤ worth a ∨
        |worth k - v| = worth k - v ∧ worth (a + 1) ≤ worth k := by
      rcases Nat.lt_or_ge a k with hk | hk
      · have hle := worth_strictMono.monotone (Nat.succ_le_of_lt hk)
        exact .inr ⟨abs_of_nonneg (by linarith), hle⟩
      · have hle := worth_strictMono.monotone hk
        exact .inl ⟨(abs_sub_comm _ _).trans (abs_of_nonneg (by linarith)), hle⟩
    cases h with
    | down hle heven =>
      have hdist : |worth a - v| = v - worth a :=
        (abs_sub_comm _ _).trans (abs_of_nonneg (by linarith))
      refine ⟨hm, fun k _ ↦ ?_, fun k _ hne heq ↦ ?_⟩
      · rcases hside k with ⟨hk, _⟩ | ⟨hk, _⟩ <;> linarith
      · rcases hside k with ⟨hk, _⟩ | ⟨hk, _⟩
        · exact absurd (worth_strictMono.injective (by linarith)) hne
        · exact heven (by linarith)
    | up hle heven =>
      have hdist : |worth (a + 1) - v| = worth (a + 1) - v := abs_of_nonneg (by linarith)
      refine ⟨hm, fun k _ ↦ ?_, fun k _ hne heq ↦ ?_⟩
      · rcases hside k with ⟨hk, _⟩ | ⟨hk, _⟩ <;> linarith
      · rcases hside k with ⟨hk, _⟩ | ⟨hk, _⟩
        · exact heven (by linarith)
        · exact absurd (worth_strictMono.injective (by linarith)) hne
  · rw [Nat.min_eq_left (Nat.le_of_not_le hm)]
    have ha : infinityBits ≤ a := by
      cases h <;> omega
    exact isNearest_infinityBits ((worth_strictMono.monotone ha).trans hlow)

/-- There is only one nearest magnitude. -/
theorem IsNearest.unique {k : Nat} (hm : IsNearest v m) (hk : IsNearest v k) : m = k := by
  by_contra hne
  have hdist : |worth k - v| = |worth m - v| :=
    le_antisymm (hk.near m hm.le) (hm.near k hk.le)
  have hmeven := hm.even k hk.le (Ne.symm hne) hdist
  have hkeven := hk.even m hm.le hne hdist.symm
  -- two even magnitudes have another one between them, which is nearer
  have hbetween {i j : Nat} (hi : i % 2 = 0) (hj : j % 2 = 0) (hlt : i < j)
      (hj' : IsNearest v j) (heq : |worth i - v| = |worth j - v|) : False := by
    have hij : i + 1 < j := by omega
    have hlow := worth_strictMono (Nat.lt_succ_self i)
    have hhigh := worth_strictMono hij
    have hnear := hj'.near (i + 1) (hij.le.trans hj'.le)
    rcases abs_cases (worth i - v) with ⟨hi', _⟩ | ⟨hi', _⟩ <;>
      rcases abs_cases (worth j - v) with ⟨hj'', _⟩ | ⟨hj'', _⟩ <;>
      rcases abs_cases (worth (i + 1) - v) with ⟨hm', _⟩ | ⟨hm', _⟩ <;> linarith
  rcases Nat.lt_or_gt_of_ne hne with hlt | hlt
  · exact hbetween hmeven hkeven hlt hk hdist.symm
  · exact hbetween hkeven hmeven hlt hm hdist

/-- The nearest magnitude is that of infinity from half a step above the greatest finite one. -/
theorem IsNearest.lt_infinityBits_iff (h : IsNearest v m) :
    m < infinityBits ↔ v < 2 ^ 1024 - 2 ^ 970 := by
  have hinfinity := worth_infinityBits
  have hgreatest := worth_pred_infinityBits
  have hhalf : (0 : ℚ) < 2 ^ 970 := by positivity
  have hpred : infinityBits - 1 < infinityBits := by decide
  generalize (2 : ℚ) ^ 970 = half at *
  generalize (2 : ℚ) ^ 1024 = top at *
  constructor
  · intro hlt
    have hle := worth_strictMono.monotone (Nat.le_sub_one_of_lt hlt)
    have hnear := h.near infinityBits le_rfl
    by_contra hv
    rcases abs_cases (worth m - v) with ⟨hm, _⟩ | ⟨hm, _⟩
    · linarith
    rcases abs_cases (worth infinityBits - v) with ⟨hi, _⟩ | ⟨hi, _⟩
    · -- both are half a step away, but the greatest finite magnitude is odd
      have hm' : m = infinityBits - 1 := worth_strictMono.injective (by linarith)
      have heven := h.even infinityBits le_rfl (by omega) (by linarith)
      rw [hm'] at heven
      exact absurd heven (by decide)
    · linarith
  · intro hv
    refine h.le.lt_of_ne fun hm ↦ ?_
    have hnear := h.near (infinityBits - 1) hpred.le
    rw [hm] at hnear
    rcases abs_cases (worth infinityBits - v) with ⟨hi, _⟩ | ⟨hi, _⟩ <;>
      rcases abs_cases (worth (infinityBits - 1) - v) with ⟨hp, _⟩ | ⟨hp, _⟩ <;> linarith

/-! ## Division -/

/-- The quotient of natural numbers, rounded, is one of the two integers around it. -/
theorem roundEven_cases (n d : Nat) :
    roundEven n d = n / d ∧ 2 * (n % d) ≤ d ∧ (2 * (n % d) = d → n / d % 2 = 0) ∨
      roundEven n d = n / d + 1 ∧ d ≤ 2 * (n % d) ∧ (2 * (n % d) = d → (n / d + 1) % 2 = 0) := by
  unfold roundEven
  split
  · exact .inl ⟨rfl, by omega, by omega⟩
  split
  · exact .inr ⟨rfl, by omega, by omega⟩
  · rcases Nat.mod_two_eq_zero_or_one (n / d) with h | h
    · exact .inl ⟨by rw [h, Nat.add_zero], by omega, fun _ ↦ h⟩
    · exact .inr ⟨by rw [h], by omega, by omega⟩

theorem scaleDown_spec {n d : Nat} (hd : 0 < d) (k : Int) :
    0 < (scaleDown n d k).2 ∧
      ((scaleDown n d k).1 : ℚ) / (scaleDown n d k).2 = n / d / 2 ^ k := by
  have hdq : (0 : ℚ) < d := by exact_mod_cast hd
  unfold scaleDown
  split
  next hk =>
    refine ⟨Nat.mul_pos hd (Nat.pow_pos two_pos), ?_⟩
    obtain ⟨j, rfl⟩ := Int.eq_ofNat_of_zero_le hk
    simp only [Int.toNat_natCast, zpow_natCast, Nat.pow_eq]
    push_cast
    rw [div_div]
  next hk =>
    refine ⟨hd, ?_⟩
    obtain ⟨j, hj⟩ := Int.eq_ofNat_of_zero_le (by omega : 0 ≤ -k)
    obtain rfl : k = -(j : Int) := by omega
    simp only [neg_neg, Int.toNat_natCast, zpow_neg, zpow_natCast, Nat.pow_eq]
    push_cast
    field_simp

theorem le_scaleDown_iff {n d : Nat} (hd : 0 < d) (k : Int) :
    (scaleDown n d k).2 ≤ (scaleDown n d k).1 ↔ (2 : ℚ) ^ k ≤ n / d := by
  obtain ⟨hpos, heq⟩ := scaleDown_spec (n := n) hd k
  have hposq : (0 : ℚ) < (scaleDown n d k).2 := by exact_mod_cast hpos
  have hpow : (0 : ℚ) < 2 ^ k := zpow_pos two_pos k
  rw [← one_le_div hpow, ← heq, one_le_div hposq, Nat.cast_le]

/-- A quotient lies between two powers of two that follow each other. -/
theorem floorLog_spec {n d : Nat} (hn : 0 < n) (hd : 0 < d) :
    (2 : ℚ) ^ floorLog n d ≤ n / d ∧ (n : ℚ) / d < 2 ^ (floorLog n d + 1) := by
  have hdq : (0 : ℚ) < d := by exact_mod_cast hd
  have hnlow : (2 : ℚ) ^ n.log2 ≤ n := by exact_mod_cast Nat.log2_self_le hn.ne'
  have hnhigh : (n : ℚ) < 2 ^ (n.log2 + 1) := by exact_mod_cast Nat.lt_log2_self
  have hdlow : (2 : ℚ) ^ d.log2 ≤ d := by exact_mod_cast Nat.log2_self_le hd.ne'
  have hdhigh : (d : ℚ) < 2 ^ (d.log2 + 1) := by exact_mod_cast Nat.lt_log2_self
  unfold floorLog
  simp only [le_scaleDown_iff hd]
  split
  next h =>
    refine ⟨h, ?_⟩
    have hsplit : (2 : ℚ) ^ (((n.log2 : Int) - d.log2) + 1) = 2 ^ (n.log2 + 1) / 2 ^ d.log2 := by
      rw [sub_add_eq_add_sub, zpow_sub₀ two_ne_zero, zpow_natCast, ← zpow_natCast]
      rfl
    rw [hsplit]
    exact div_lt_div₀ hnhigh hdlow (by positivity) (by positivity)
  next h =>
    have hsplit : (2 : ℚ) ^ (((n.log2 : Int) - d.log2) - 1) = 2 ^ n.log2 / 2 ^ (d.log2 + 1) := by
      rw [sub_sub, zpow_sub₀ two_ne_zero, zpow_natCast, ← zpow_natCast _ (d.log2 + 1)]
      rfl
    rw [sub_add_cancel]
    refine ⟨?_, lt_of_not_ge h⟩
    rw [hsplit]
    exact div_le_div₀ (by positivity) hnlow hdq hdhigh.le

/-! ## The double nearest to a quotient -/

/-- A quotient divided by the width of its grid: less than the end of the grid, and not less than
its beginning unless this is zero. -/
theorem div_lastBit {n d : Nat} (hn : 0 < n) (hd : 0 < d) :
    (n : ℚ) / d / 2 ^ lastBit n d < 2 * binade ∧
      (lastBit n d = -1074 ∨ (binade : ℚ) ≤ n / d / 2 ^ lastBit n d) := by
  obtain ⟨hlow, hhigh⟩ := floorLog_spec hn hd
  have hbinade : (binade : ℚ) = 2 ^ (52 : Int) := by norm_num [binade]
  have hpow : (0 : ℚ) < 2 ^ lastBit n d := zpow_pos two_pos _
  rw [div_lt_iff₀ hpow, le_div_iff₀ hpow, hbinade, ← zpow_one_add₀ two_ne_zero,
    ← zpow_add₀ two_ne_zero, ← zpow_add₀ two_ne_zero]
  unfold lastBit
  constructor
  · exact hhigh.trans_le (zpow_le_zpow_right₀ one_le_two (by omega))
  · rcases le_total (floorLog n d - 52) (-1074) with h | h
    · exact .inl (max_eq_left h)
    · right
      rw [max_eq_right h, add_sub_cancel]
      exact hlow

/-- Between two neighbours on a grid, a quotient is rounded by its remainder. -/
theorem isRounded_roundEven {p q b : Nat} {w : ℚ} (hq : 0 < q) (hw : 0 < w)
    (hlow : worth (b * binade + p / q) = (p / q : Nat) * w)
    (hhigh : worth (b * binade + p / q + 1) = ((p / q : Nat) + 1) * w) :
    IsRounded ((p : ℚ) / q * w) (b * binade + p / q) (b * binade + roundEven p q) := by
  have hqq : (0 : ℚ) < q := by exact_mod_cast hq
  have hsplit : (p : ℚ) / q = (p / q : Nat) + (p % q : Nat) / q := by
    rw [eq_comm, ← eq_sub_iff_add_eq', div_eq_iff hqq.ne', sub_mul, div_mul_cancel₀ _ hqq.ne',
      eq_sub_iff_add_eq]
    exact_mod_cast Nat.mod_add_div' p q
  have hbelow : (p : ℚ) / q * w - worth (b * binade + p / q) = (p % q : Nat) / q * w := by
    rw [hlow, hsplit]
    ring
  have habove : worth (b * binade + p / q + 1) - (p : ℚ) / q * w = w - (p % q : Nat) / q * w := by
    rw [hhigh, hsplit]
    ring
  -- which neighbour is nearer, in terms of the remainder
  have hle : (p % q : Nat) / q * w ≤ w - (p % q : Nat) / q * w ↔ 2 * (p % q) ≤ q := by
    rw [le_sub_iff_add_le, ← two_mul, ← mul_assoc, mul_le_iff_le_one_left hw, mul_div_assoc',
      div_le_one hqq]
    exact_mod_cast Iff.rfl
  have hge : w - (p % q : Nat) / q * w ≤ (p % q : Nat) / q * w ↔ q ≤ 2 * (p % q) := by
    rw [sub_le_iff_le_add, ← two_mul, ← mul_assoc, le_mul_iff_one_le_left hw, mul_div_assoc',
      one_le_div hqq]
    exact_mod_cast Iff.rfl
  have heq : (p % q : Nat) / q * w = w - (p % q : Nat) / q * w ↔ 2 * (p % q) = q := by
    rw [eq_sub_iff_add_eq, ← two_mul, ← mul_assoc, mul_eq_right₀ hw.ne', mul_div_assoc',
      div_eq_one_iff_eq hqq.ne']
    exact_mod_cast Iff.rfl
  have hparity (f : Nat) : (b * binade + f) % 2 = f % 2 := by
    unfold binade
    omega
  rcases roundEven_cases p q with ⟨h, hrem, heven⟩ | ⟨h, hrem, heven⟩
  · rw [h]
    refine .down ?_ ?_
    · rw [hbelow, habove]
      exact hle.2 hrem
    · rw [hbelow, habove, heq, hparity]
      exact heven
  · rw [h, ← Nat.add_assoc]
    refine .up ?_ ?_
    · rw [hbelow, habove]
      exact hge.2 hrem
    · rw [hbelow, habove, heq, Nat.add_assoc, hparity]
      exact heven

/-- The rounded quotient on its grid is the rounded number. -/
theorem isNearest_nearest {n d : Nat} (hn : 0 < n) (hd : 0 < d) :
    IsNearest ((n : ℚ) / d) (nearest n d) := by
  obtain ⟨hend, hbegin⟩ := div_lastBit hn hd
  obtain ⟨hq, hquot⟩ := scaleDown_spec (n := n) hd (lastBit n d)
  have hexp : lastBit n d = ((lastBit n d + 1074).toNat : Int) - 1074 := by
    have hle : -1074 ≤ lastBit n d := le_max_left _ _
    omega
  have hw : (0 : ℚ) < 2 ^ lastBit n d := zpow_pos two_pos _
  unfold nearest
  rw [(div_eq_iff hw.ne').1 hquot.symm]
  rw [← hquot] at hend hbegin
  simp only
  generalize scaleDown n d (lastBit n d) = s at *
  obtain ⟨p, q⟩ := s
  generalize (lastBit n d + 1074).toNat = b at *
  rw [hexp] at hw hbegin ⊢
  simp only at *
  have hqq : (0 : ℚ) < q := by exact_mod_cast hq
  have hbelow : p / q < 2 * binade := by
    rw [div_lt_iff₀ hqq] at hend
    exact (Nat.div_lt_iff_lt_mul hq).2 (by exact_mod_cast hend)
  have habove : b = 0 ∨ binade ≤ p / q := by
    rcases hbegin with hb | hb
    · exact .inl (by omega)
    · rw [le_div_iff₀ hqq] at hb
      exact .inr ((Nat.le_div_iff_mul_le hq).2 (by exact_mod_cast hb))
  have hlow := worth_grid hbelow.le habove
  have hhigh := worth_grid hbelow (habove.imp_right Nat.le_succ_of_le)
  rw [Nat.succ_eq_add_one, ← Nat.add_assoc, Nat.cast_succ] at hhigh
  refine (isRounded_roundEven hq hw hlow hhigh).isNearest ?_ ?_
  · rw [hlow]
    exact mul_le_mul_of_nonneg_right Nat.cast_div_le hw.le
  · rw [hhigh]
    refine mul_lt_mul_of_pos_right ?_ hw
    rw [div_lt_iff₀ hqq]
    rw [mul_comm]
    exact_mod_cast Nat.lt_mul_div_succ p hq

/-! ## The double nearest to a written number -/

/-- What is less than half of the least magnitude is rounded to zero. -/
theorem isNearest_zero (hv : 0 ≤ v) (h : 2 * v < 2 ^ (-1074 : Int)) : IsNearest v 0 := by
  have hone : worth 1 = 2 ^ (-1074 : Int) := by simp [worth, binade]
  have hrounded : IsRounded v 0 0 := by
    refine .down ?_ fun _ ↦ rfl
    rw [worth_zero, hone]
    linarith
  have hnearest := hrounded.isNearest (by rwa [worth_zero]) (by rw [hone]; linarith)
  rwa [Nat.min_eq_right (Nat.zero_le _)] at hnearest

/-- A power of ten from which on there are no doubles. -/
theorem two_pow_le_ten_pow : 2 ^ 1024 ≤ 10 ^ 309 := by decide +kernel

/-- A power of ten below which there are no doubles, and so much less with every further digit. -/
theorem two_pow_le_ten_pow_add (k : Nat) : 2 ^ (1076 + k) ≤ 10 ^ (332 + k) := by
  have hbase : 2 ^ 1076 ≤ 10 ^ 332 := by decide +kernel
  rw [pow_add, pow_add]
  exact Nat.mul_le_mul hbase (Nat.pow_le_pow_left (by decide) k)

theorem isNearest_of_large {e : Int} (hm : 0 < m) (he : 309 ≤ e) :
    IsNearest (m * 10 ^ e) infinityBits := by
  apply isNearest_infinityBits
  obtain ⟨j, rfl⟩ := Int.eq_ofNat_of_zero_le (by omega : 0 ≤ e)
  rw [worth_infinityBits, zpow_natCast]
  have hj : 309 ≤ j := by omega
  have hle : 2 ^ 1024 ≤ m * 10 ^ j :=
    two_pow_le_ten_pow.trans <| (pow_le_pow_right₀ (by decide) hj).trans <|
      Nat.le_mul_of_pos_left _ hm
  exact_mod_cast hle

theorem isNearest_of_small {e : Int} (he : e + m.log2 < -331) : IsNearest (m * 10 ^ e) 0 := by
  obtain ⟨j, hj⟩ := Int.eq_ofNat_of_zero_le (by omega : 0 ≤ -e)
  obtain rfl : e = -(j : Int) := by omega
  have hpow : (0 : ℚ) < 10 ^ j := by positivity
  have hlt : 2 * m * 2 ^ 1074 < 10 ^ j := by
    have hm : m < 2 ^ (m.log2 + 1) := Nat.lt_log2_self
    calc 2 * m * 2 ^ 1074 < 2 * 2 ^ (m.log2 + 1) * 2 ^ 1074 := by
          gcongr
      _ = 2 ^ (1076 + m.log2) := by
          rw [← pow_succ', ← pow_add]
          congr 1
          omega
      _ ≤ 10 ^ (332 + m.log2) := two_pow_le_ten_pow_add _
      _ ≤ 10 ^ j := Nat.pow_le_pow_right (by decide) (by omega)
  apply isNearest_zero
  · exact mul_nonneg (Nat.cast_nonneg m) (zpow_nonneg (by norm_num) _)
  · rw [zpow_neg, zpow_natCast, ← div_eq_mul_inv, mul_div_assoc', div_lt_iff₀ hpow, zpow_neg,
      ← one_div, div_mul_eq_mul_div, one_mul, lt_div_iff₀ (zpow_pos two_pos _)]
    exact_mod_cast hlt

/-- A number times a power of ten is rounded to the nearest magnitude. -/
theorem isNearest_nearestDecimal (m : Nat) (e : Int) :
    IsNearest (m * 10 ^ e) (nearestDecimal m e) := by
  unfold nearestDecimal
  split
  next hm =>
    rw [hm, Nat.cast_zero, zero_mul]
    exact isNearest_zero le_rfl (by rw [mul_zero]; exact zpow_pos two_pos _)
  next hm =>
  have hpos : 0 < m := Nat.pos_of_ne_zero hm
  split
  next he => exact isNearest_of_large hpos he
  split
  next he => exact isNearest_of_small he
  split
  next he =>
    obtain ⟨j, rfl⟩ := Int.eq_ofNat_of_zero_le he
    have hnearest := isNearest_nearest (n := m * 10 ^ j) (d := 1)
      (Nat.mul_pos hpos (Nat.pow_pos (by decide))) one_pos
    rw [Nat.cast_mul, Nat.cast_pow, Nat.cast_one, div_one] at hnearest
    exact_mod_cast hnearest
  next he =>
    obtain ⟨j, hj⟩ := Int.eq_ofNat_of_zero_le (by omega : 0 ≤ -e)
    obtain rfl : e = -(j : Int) := by omega
    have hnearest := isNearest_nearest hpos (d := 10 ^ j) (Nat.pow_pos (by decide))
    rw [Nat.cast_pow] at hnearest
    rw [zpow_neg, zpow_natCast, ← div_eq_mul_inv, neg_neg]
    exact_mod_cast hnearest

/-! ## Rounding -/

variable {x : Binary64} {negative : Bool}

theorem isNaN_eq_false_iff : x.isNaN = false ↔ x.magnitude ≤ infinityBits := by
  simp [isNaN]

theorem isFinite_iff : x.isFinite = true ↔ x.magnitude < infinityBits := by
  simp [isFinite]

/-- The significand is even exactly if the bits of the magnitude are. -/
theorem significand_mod_two (x : Binary64) : x.significand % 2 = x.magnitude % 2 := by
  unfold significand binade
  split <;> omega

theorem toNat_ofMagnitude (negative : Bool) (hm : m ≤ infinityBits) :
    (ofMagnitude negative m).bits.toNat = if negative then signBit + m else m := by
  unfold infinityBits binade at hm
  rw [ofMagnitude, UInt64.toNat_ofNat']
  refine Nat.mod_eq_of_lt ?_
  unfold signBit
  split <;> omega

theorem magnitude_ofMagnitude (negative : Bool) (hm : m ≤ infinityBits) :
    (ofMagnitude negative m).magnitude = m := by
  rw [magnitude, toNat_ofMagnitude negative hm]
  unfold infinityBits binade at hm
  unfold signBit
  split <;> omega

theorem negative_ofMagnitude (negative : Bool) (hm : m ≤ infinityBits) :
    (ofMagnitude negative m).negative = negative := by
  rw [Binary64.negative, toNat_ofMagnitude negative hm]
  unfold infinityBits binade at hm
  unfold signBit
  cases negative
  · simp
    omega
  · simp

/-- A double is its sign and its magnitude. -/
theorem eq_of_magnitude_eq {y : Binary64} (hneg : x.negative = y.negative)
    (hmag : x.magnitude = y.magnitude) : x = y := by
  obtain ⟨a⟩ := x
  obtain ⟨b⟩ := y
  have ha := a.toNat_lt
  have hb := b.toNat_lt
  have hsign : 9223372036854775808 ≤ a.toNat ↔ 9223372036854775808 ≤ b.toNat :=
    decide_eq_decide.1 hneg
  unfold magnitude signBit at hmag
  simp only at hmag
  congr 1
  apply UInt64.toNat_inj.1
  omega

/-- The double is the rounded number of the given sign: none is nearer, and if another one is as
near, its significand is even.  Infinity counts as the power of two behind the finite doubles. -/
structure RoundsTo (negative : Bool) (v : ℚ) (x : Binary64) : Prop where
  sign : x.negative = negative
  notNaN : x.isNaN = false
  near : ∀ y : Binary64, y.isNaN = false → |x.abs - v| ≤ |y.abs - v|
  even : ∀ y : Binary64, y.isNaN = false → y.abs ≠ x.abs → |y.abs - v| = |x.abs - v| →
    x.significand % 2 = 0

theorem roundsTo_iff : RoundsTo negative v x ↔ x.negative = negative ∧ IsNearest v x.magnitude := by
  constructor
  · rintro ⟨hsign, hnum, hnear, heven⟩
    have hother {k : Nat} (hk : k ≤ infinityBits) : (ofMagnitude false k).isNaN = false ∧
        (ofMagnitude false k).abs = worth k := by
      rw [isNaN_eq_false_iff, abs_eq_worth, magnitude_ofMagnitude false hk]
      exact ⟨hk, rfl⟩
    refine ⟨hsign, isNaN_eq_false_iff.1 hnum, fun k hk ↦ ?_, fun k hk hne heq ↦ ?_⟩
    · obtain ⟨hy, habs⟩ := hother hk
      have h := hnear _ hy
      rwa [habs, abs_eq_worth] at h
    · obtain ⟨hy, habs⟩ := hother hk
      rw [← significand_mod_two]
      refine heven _ hy ?_ ?_
      · rw [habs, abs_eq_worth]
        exact worth_strictMono.injective.ne hne
      · rw [habs, abs_eq_worth, heq]
  · rintro ⟨hsign, hnearest⟩
    refine ⟨hsign, isNaN_eq_false_iff.2 hnearest.le, fun y hy ↦ ?_, fun y hy hne heq ↦ ?_⟩
    · rw [abs_eq_worth, abs_eq_worth]
      exact hnearest.near _ (isNaN_eq_false_iff.1 hy)
    · rw [abs_eq_worth, abs_eq_worth] at hne heq
      rw [significand_mod_two]
      exact hnearest.even _ (isNaN_eq_false_iff.1 hy) (fun h ↦ hne (congrArg worth h)) heq

/-- A number is rounded to one double. -/
theorem RoundsTo.unique {y : Binary64} (hx : RoundsTo negative v x) (hy : RoundsTo negative v y) :
    x = y := by
  obtain ⟨hxsign, hx⟩ := roundsTo_iff.1 hx
  obtain ⟨hysign, hy⟩ := roundsTo_iff.1 hy
  exact eq_of_magnitude_eq (hxsign.trans hysign.symm) (hx.unique hy)

/-- A rounded number is finite up to half a step above the greatest finite double. -/
theorem RoundsTo.isFinite_iff (h : RoundsTo negative v x) :
    x.isFinite = true ↔ v < 2 ^ 1024 - 2 ^ 970 := by
  rw [Binary64.isFinite_iff, (roundsTo_iff.1 h).2.lt_infinityBits_iff]

/-- **Rounding.**  A written number is rounded to the nearest double. -/
theorem roundsTo_ofDecimal (d : Decimal) : RoundsTo d.negative d.magnitude (ofDecimal d) := by
  have hnearest := isNearest_nearestDecimal d.coefficient d.scale
  rw [roundsTo_iff, ofDecimal, magnitude_ofMagnitude _ hnearest.le,
    negative_ofMagnitude _ hnearest.le, d.magnitude_eq]
  exact ⟨rfl, hnearest⟩

theorem roundsTo_iff_eq_ofDecimal {d : Decimal} :
    RoundsTo d.negative d.magnitude x ↔ x = ofDecimal d := by
  constructor
  · intro h
    exact h.unique (roundsTo_ofDecimal d)
  · rintro rfl
    exact roundsTo_ofDecimal d

end RecordGateway.Binary64
