import DriverKit.Decimal.Binary64
import Mathlib.Algebra.Order.Field.Power
import Mathlib.Data.Nat.Log
import Mathlib.Tactic.FieldSimp
import Mathlib.Tactic.Linarith
import Mathlib.Tactic.Positivity
import Mathlib.Tactic.Ring

/-!
# The numbers nearest to ratios

A ratio that is neither too small nor too large is rounded to a number with a significand of 53
bits that is at most half a place away from it, and in the middle between two numbers to the even
one. Below a power of two, where the numbers lie twice as close, it is at most a quarter of a place
away.
-/

namespace DriverKit.Decimal.Binary64

/-! ## Quotients -/

/-- A natural number is nearest to a ratio, and even if another one is equally near. -/
structure IsRounded (ratio : ℚ) (number : Nat) : Prop where
  low : (number : ℚ) - 1 / 2 ≤ ratio
  high : ratio ≤ number + 1 / 2
  strict : number % 2 = 1 → (number : ℚ) - 1 / 2 < ratio ∧ ratio < number + 1 / 2

theorem isRounded_roundQuotient (numerator : Nat) {denominator : Nat} (pos : 0 < denominator) :
    IsRounded (numerator / denominator) (roundQuotient numerator denominator) := by
  have castPos : (0 : ℚ) < denominator := by exact_mod_cast pos
  have rest := Nat.mod_lt numerator pos
  have split := Nat.div_add_mod numerator denominator
  set quotient := numerator / denominator with quotient_def
  set remainder := numerator % denominator with remainder_def
  have castSplit : (numerator : ℚ) / denominator = quotient + remainder / denominator := by
    rw [← split]
    push_cast
    field_simp
  have small : (remainder : ℚ) / denominator < 1 := by
    rw [div_lt_one castPos]
    exact_mod_cast rest
  have nonneg : (0 : ℚ) ≤ remainder / denominator := by positivity
  have less_half_iff : 2 * remainder < denominator ↔ (remainder : ℚ) / denominator < 1 / 2 := by
    rw [div_lt_div_iff₀ castPos two_pos]
    norm_cast
    omega
  have half_less_iff : denominator < 2 * remainder ↔ 1 / 2 < (remainder : ℚ) / denominator := by
    rw [div_lt_div_iff₀ two_pos castPos]
    norm_cast
    omega
  rw [castSplit]
  unfold roundQuotient
  simp only [← quotient_def, ← remainder_def, less_half_iff, half_less_iff, beq_iff_eq]
  split
  · exact ⟨by linarith, by linarith, fun _ => ⟨by linarith, by linarith⟩⟩
  · split
    · exact ⟨by push_cast; linarith, by push_cast; linarith,
        fun _ => ⟨by push_cast; linarith, by push_cast; linarith⟩⟩
    · have half : (remainder : ℚ) / denominator = 1 / 2 := by linarith
      split
      · exact ⟨by linarith, by linarith, by omega⟩
      · exact ⟨by push_cast; linarith, by push_cast; linarith, by omega⟩

/-! ## Scaling -/

theorem scaleDown_spec (numerator : Nat) {denominator : Nat} (pos : 0 < denominator)
    (exponent : Int) :
    0 < (scaleDown numerator denominator exponent).2 ∧
      ((scaleDown numerator denominator exponent).1 : ℚ)
          / (scaleDown numerator denominator exponent).2
        = numerator / denominator / 2 ^ exponent := by
  have castPos : (0 : ℚ) < denominator := by exact_mod_cast pos
  unfold scaleDown
  split
  · rename_i negative
    obtain ⟨size, rfl⟩ := Int.exists_eq_neg_ofNat negative.le
    simp only [Int.natAbs_neg, Int.natAbs_natCast, Nat.shiftLeft_eq, zpow_neg, zpow_natCast]
    refine ⟨pos, ?_⟩
    push_cast
    field_simp
  · rename_i nonneg
    obtain ⟨size, rfl⟩ := Int.eq_ofNat_of_zero_le (not_lt.mp nonneg)
    simp only [Int.natAbs_natCast, Nat.shiftLeft_eq, zpow_natCast]
    refine ⟨by positivity, ?_⟩
    push_cast
    field_simp

/-- The least ratio that is rounded to a significand of 53 bits. -/
def leastNormal : ℚ := 2 ^ (-1022 : Int)

theorem two_zpow_pos (exponent : Int) : (0 : ℚ) < 2 ^ exponent := zpow_pos two_pos exponent

/-- The logarithms of numerator and denominator give the exponent, or are off by one. -/
theorem log2_estimate {numerator denominator : Nat} (numeratorPos : 0 < numerator)
    (denominatorPos : 0 < denominator) :
    let estimate : Int := (numerator.log2 : Int) - denominator.log2 - 52
    (2 : ℚ) ^ 51 < numerator / denominator / 2 ^ estimate ∧
      numerator / denominator / 2 ^ estimate < (2 : ℚ) ^ 53 := by
  intro estimate
  have castPos : (0 : ℚ) < denominator := by exact_mod_cast denominatorPos
  have numeratorLow : (2 : ℚ) ^ numerator.log2 ≤ numerator := by
    exact_mod_cast Nat.log2_self_le numeratorPos.ne'
  have numeratorHigh : (numerator : ℚ) < 2 ^ (numerator.log2 + 1) := by
    exact_mod_cast Nat.lt_log2_self
  have denominatorLow : (2 : ℚ) ^ denominator.log2 ≤ denominator := by
    exact_mod_cast Nat.log2_self_le denominatorPos.ne'
  have denominatorHigh : (denominator : ℚ) < 2 ^ (denominator.log2 + 1) := by
    exact_mod_cast Nat.lt_log2_self
  have split : (2 : ℚ) ^ estimate * 2 ^ denominator.log2 * 2 ^ 52 = 2 ^ numerator.log2 := by
    rw [← zpow_natCast, ← zpow_natCast, ← zpow_natCast, ← zpow_add₀ two_ne_zero,
      ← zpow_add₀ two_ne_zero]
    congr 1
    push_cast
    omega
  have pos := two_zpow_pos estimate
  constructor
  · rw [lt_div_iff₀ pos, lt_div_iff₀ castPos]
    calc
      (2 : ℚ) ^ 51 * 2 ^ estimate * denominator
          < 2 ^ 51 * 2 ^ estimate * 2 ^ (denominator.log2 + 1) := by gcongr
      _ = 2 ^ estimate * 2 ^ denominator.log2 * 2 ^ 52 := by ring
      _ = 2 ^ numerator.log2 := split
      _ ≤ numerator := numeratorLow
  · rw [div_lt_iff₀ pos, div_lt_iff₀ castPos]
    calc
      (numerator : ℚ) < 2 ^ (numerator.log2 + 1) := numeratorHigh
      _ = 2 * (2 ^ estimate * 2 ^ denominator.log2 * 2 ^ 52) := by rw [split]; ring
      _ = 2 ^ 53 * 2 ^ estimate * 2 ^ denominator.log2 := by ring
      _ ≤ 2 ^ 53 * 2 ^ estimate * denominator := by gcongr

theorem exponentFor_spec {numerator denominator : Nat} (numeratorPos : 0 < numerator)
    (denominatorPos : 0 < denominator) (normal : leastNormal ≤ numerator / denominator) :
    (2 : ℚ) ^ 52 ≤ numerator / denominator / 2 ^ exponentFor numerator denominator ∧
      numerator / denominator / 2 ^ exponentFor numerator denominator < (2 : ℚ) ^ 53 := by
  obtain ⟨low, high⟩ := log2_estimate numeratorPos denominatorPos
  set estimate : Int := (numerator.log2 : Int) - denominator.log2 - 52 with estimate_def
  obtain ⟨unitPos, sameRatio⟩ := scaleDown_spec numerator denominatorPos estimate
  have castPos : (0 : ℚ) < (scaleDown numerator denominator estimate).2 := by
    exact_mod_cast unitPos
  have notLeast : ∀ exponent : Int,
      (numerator / denominator / 2 ^ exponent : ℚ) < 2 ^ 53 → leastExponent ≤ exponent := by
    intro exponent below
    rw [div_lt_iff₀ (two_zpow_pos exponent)] at below
    have less : (2 : ℚ) ^ (-1022 : Int) < 2 ^ (53 + exponent) := by
      calc
        (2 : ℚ) ^ (-1022 : Int) ≤ numerator / denominator := normal
        _ < 2 ^ 53 * 2 ^ exponent := below
        _ = 2 ^ (53 + exponent) := by rw [zpow_add₀ two_ne_zero]; norm_num
    have := (zpow_lt_zpow_iff_right₀ (one_lt_two : (1 : ℚ) < 2)).mp less
    unfold leastExponent
    omega
  have small_iff : (scaleDown numerator denominator estimate).1
        < (scaleDown numerator denominator estimate).2 <<< 52 ↔
      (numerator / denominator / 2 ^ estimate : ℚ) < 2 ^ 52 := by
    rw [← sameRatio, div_lt_iff₀ castPos, Nat.shiftLeft_eq, mul_comm ((2 : ℚ) ^ 52)]
    norm_cast
  have found : exponentFor numerator denominator
      = max leastExponent (if (scaleDown numerator denominator estimate).1
          < (scaleDown numerator denominator estimate).2 <<< 52 then estimate - 1 else estimate) :=
    rfl
  rw [found]
  simp only [small_iff]
  split
  · rename_i small
    have twice : (numerator / denominator / 2 ^ (estimate - 1) : ℚ)
        = 2 * (numerator / denominator / 2 ^ estimate) := by
      rw [zpow_sub_one₀ two_ne_zero]
      field_simp
    have bounds : (2 : ℚ) ^ 52 ≤ numerator / denominator / 2 ^ (estimate - 1) ∧
        numerator / denominator / 2 ^ (estimate - 1) < (2 : ℚ) ^ 53 := by
      rw [twice]
      constructor <;> linarith
    rw [max_eq_right (notLeast _ bounds.2)]
    exact bounds
  · rename_i large
    rw [max_eq_right (notLeast _ high)]
    exact ⟨not_lt.mp large, high⟩

/-! ## The nearest number -/

/-- A ratio is nearest to a number with a significand of 53 bits. -/
structure IsNearest (ratio : ℚ) (significand : Nat) (exponent : Int) : Prop where
  normal : 2 ^ 52 ≤ significand
  short : significand < 2 ^ 53
  low : ((significand : ℚ) - 1 / 2) * 2 ^ exponent ≤ ratio
  high : ratio ≤ ((significand : ℚ) + 1 / 2) * 2 ^ exponent
  strict : significand % 2 = 1 → ((significand : ℚ) - 1 / 2) * 2 ^ exponent < ratio ∧
    ratio < ((significand : ℚ) + 1 / 2) * 2 ^ exponent
  /-- The numbers below a power of two are half as far from each other. -/
  narrow : significand = 2 ^ 52 → ((significand : ℚ) - 1 / 4) * 2 ^ exponent ≤ ratio

theorem isNearest_of_isRounded {ratio : ℚ} {significand : Nat} {exponent : Int}
    (rounded : IsRounded (ratio / 2 ^ exponent) significand)
    (least : (2 : ℚ) ^ 52 ≤ ratio / 2 ^ exponent) (less : significand < 2 ^ 53) :
    IsNearest ratio significand exponent := by
  have pos := two_zpow_pos exponent
  have normal : 2 ^ 52 ≤ significand := by
    have := least.trans rounded.high
    by_contra small
    have : (significand : ℚ) + 1 ≤ 2 ^ 52 := by exact_mod_cast not_le.mp small
    linarith
  refine ⟨normal, less, ?_, ?_, fun odd => ⟨?_, ?_⟩, fun isPower => ?_⟩
  · exact (le_div_iff₀ pos).mp rounded.low
  · exact (div_le_iff₀ pos).mp rounded.high
  · exact (lt_div_iff₀ pos).mp (rounded.strict odd).1
  · exact (div_lt_iff₀ pos).mp (rounded.strict odd).2
  · refine (le_div_iff₀ pos).mp (le_trans ?_ least)
    rw [isPower]
    norm_num

/-- A significand that has become too long is half as long at the next exponent. -/
theorem isNearest_of_isRounded_carry {ratio : ℚ} {exponent : Int}
    (rounded : IsRounded (ratio / 2 ^ exponent) (2 ^ 53))
    (less : ratio / 2 ^ exponent < (2 : ℚ) ^ 53) : IsNearest ratio (2 ^ 52) (exponent + 1) := by
  have pos := two_zpow_pos exponent
  have next : (2 : ℚ) ^ (exponent + 1) = 2 * 2 ^ exponent := by
    rw [zpow_add_one₀ two_ne_zero, mul_comm]
  have low := (le_div_iff₀ pos).mp rounded.low
  have high := (div_lt_iff₀ pos).mp less
  push_cast at low
  refine ⟨le_refl _, by norm_num, ?_, ?_, fun odd => absurd odd (by decide), fun _ => ?_⟩
  · rw [next]
    push_cast
    linarith
  · rw [next]
    push_cast
    linarith
  · rw [next]
    push_cast
    linarith

theorem exponent_lt_of_isNearest {ratio : ℚ} {significand : Nat} {exponent : Int}
    (nearest : IsNearest ratio significand exponent) {bound : Int}
    (less : ratio < 2 ^ bound) : exponent + 51 < bound := by
  have pos := two_zpow_pos exponent
  have normal : (2 : ℚ) ^ 52 ≤ significand := by exact_mod_cast nearest.normal
  have small : (2 : ℚ) ^ (exponent + 51) < 2 ^ bound := by
    calc
      (2 : ℚ) ^ (exponent + 51) = 2 ^ 51 * 2 ^ exponent := by
        rw [zpow_add₀ two_ne_zero, mul_comm]
        norm_num
      _ ≤ ((significand : ℚ) - 1 / 2) * 2 ^ exponent := by
        gcongr
        linarith
      _ ≤ ratio := nearest.low
      _ < 2 ^ bound := less
  exact (zpow_lt_zpow_iff_right₀ one_lt_two).mp small

/-- A ratio that is neither too small nor too large is rounded to the nearest number. -/
theorem exists_ofRatio (negative : Bool) {numerator denominator : Nat} (pos : 0 < denominator)
    (normal : leastNormal ≤ numerator / denominator)
    (finite : (numerator / denominator : ℚ) < 2 ^ (1022 : Int)) :
    ∃ significand exponent,
      ofRatio negative numerator denominator = .finite negative significand exponent ∧
        IsNearest (numerator / denominator) significand exponent := by
  have numeratorPos : 0 < numerator := by
    by_contra zero
    rw [Nat.eq_zero_of_not_pos zero] at normal
    have := two_zpow_pos (-1022)
    unfold leastNormal at normal
    simp only [Nat.cast_zero, zero_div] at normal
    linarith
  obtain ⟨low, high⟩ := exponentFor_spec numeratorPos pos normal
  set exponent := exponentFor numerator denominator with exponent_def
  obtain ⟨unitPos, sameRatio⟩ := scaleDown_spec numerator pos exponent
  have rounded := isRounded_roundQuotient (scaleDown numerator denominator exponent).1 unitPos
  rw [sameRatio] at rounded
  set significand := roundQuotient (scaleDown numerator denominator exponent).1
    (scaleDown numerator denominator exponent).2 with significand_def
  have le : significand ≤ 2 ^ 53 := by
    have := rounded.low
    by_contra large
    have : (2 : ℚ) ^ 53 + 1 ≤ significand := by exact_mod_cast not_le.mp large
    linarith
  have made : ofRatio negative numerator denominator
      = (let carried :=
          if significand == 1 <<< 53 then (1 <<< 52, exponent + 1) else (significand, exponent)
        if greatestExponent < carried.2 then .infinite negative
        else .finite negative carried.1 carried.2) := by
    unfold ofRatio
    rw [if_neg (by simpa using numeratorPos.ne')]
  have shifted : (1 <<< 53 : Nat) = 2 ^ 53 ∧ (1 <<< 52 : Nat) = 2 ^ 52 := by decide
  rw [shifted.1, shifted.2] at made
  by_cases carry : significand = 2 ^ 53
  · rw [carry] at rounded
    have nearest := isNearest_of_isRounded_carry rounded high
    have bound := exponent_lt_of_isNearest nearest finite
    refine ⟨2 ^ 52, exponent + 1, ?_, nearest⟩
    have small : ¬greatestExponent < exponent + 1 := by unfold greatestExponent; omega
    rw [made, if_pos (beq_iff_eq.mpr carry)]
    exact if_neg small
  · have nearest := isNearest_of_isRounded rounded low (lt_of_le_of_ne le carry)
    have bound := exponent_lt_of_isNearest nearest finite
    refine ⟨significand, exponent, ?_, nearest⟩
    have apart : ¬(significand == 2 ^ 53) = true := fun same => carry (beq_iff_eq.mp same)
    have small : ¬greatestExponent < exponent := by unfold greatestExponent; omega
    rw [made, if_neg apart]
    simp only [small, if_false]

/-! ## What is always a number -/

theorem zero_ne_nan (negative : Bool) : zero negative ≠ .nan := Binary64.noConfusion

theorem ofRatio_ne_nan (negative : Bool) (numerator denominator : Nat) :
    ofRatio negative numerator denominator ≠ .nan := by
  unfold ofRatio
  split
  · exact zero_ne_nan negative
  · generalize exponentFor numerator denominator = exponent
    dsimp only
    generalize roundQuotient _ _ = significand
    split <;> split <;> exact Binary64.noConfusion

theorem ofDecimal_ne_nan (negative : Bool) (digits : Nat) (exponent : Int) :
    ofDecimal negative digits exponent ≠ .nan := by
  unfold ofDecimal
  dsimp only
  split_ifs
  · exact zero_ne_nan negative
  · exact Binary64.noConfusion
  · exact zero_ne_nan negative
  · exact ofRatio_ne_nan _ _ _
  · exact ofRatio_ne_nan _ _ _

end DriverKit.Decimal.Binary64
