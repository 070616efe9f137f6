import DriverKit.Decimal.Shortest
import DriverKit.Proofs.Decimal.Rounding

/-!
# Decimals of few digits

A decimal of at most fifteen digits that is rounded to a number is the only one, on its own grid or
a coarser one, that reads back as the number. So it is what the search for the shortest decimal ends
with.
-/

namespace DriverKit.Decimal

theorem Binary64.ratio_spec (significand : Nat) (exponent : Int) :
    0 < (ratio significand exponent).2 ∧
      ((ratio significand exponent).1 : ℚ) / (ratio significand exponent).2
        = significand * 2 ^ exponent := by
  unfold ratio
  split
  · rename_i negative
    obtain ⟨size, rfl⟩ := Int.exists_eq_neg_ofNat negative.le
    simp only [Int.natAbs_neg, Int.natAbs_natCast, Nat.shiftLeft_eq, zpow_neg, zpow_natCast]
    refine ⟨by positivity, ?_⟩
    push_cast
    field_simp
  · rename_i nonneg
    obtain ⟨size, rfl⟩ := Int.eq_ofNat_of_zero_le (not_lt.mp nonneg)
    simp only [Int.natAbs_natCast, Nat.shiftLeft_eq, zpow_natCast]
    refine ⟨one_pos, ?_⟩
    push_cast
    ring

namespace Shortest

theorem ten_zpow_pos (exponent : Int) : (0 : ℚ) < 10 ^ exponent := zpow_pos (by norm_num) exponent

/-! ## Decimals -/

/-- The number that a decimal stands for. -/
def Scaled.value (decimal : Scaled) : ℚ := decimal.digits * 10 ^ decimal.exponent

theorem Scaled.ratio_spec (decimal : Scaled) :
    0 < decimal.ratio.2 ∧ (decimal.ratio.1 : ℚ) / decimal.ratio.2 = decimal.value := by
  obtain ⟨digits, exponent⟩ := decimal
  unfold Scaled.ratio Scaled.value
  dsimp only
  split
  · rename_i negative
    obtain ⟨size, rfl⟩ := Int.exists_eq_neg_ofNat negative.le
    simp only [Int.natAbs_neg, Int.natAbs_natCast, Nat.pow_eq, zpow_neg, zpow_natCast]
    refine ⟨by positivity, ?_⟩
    push_cast
    field_simp
  · rename_i nonneg
    obtain ⟨size, rfl⟩ := Int.eq_ofNat_of_zero_le (not_lt.mp nonneg)
    simp only [Int.natAbs_natCast, Nat.pow_eq, zpow_natCast]
    refine ⟨one_pos, ?_⟩
    push_cast
    ring

/-- Different multiples of a unit are at least the unit apart. -/
theorem eq_of_abs_sub_lt {unit : ℚ} (pos : 0 < unit) {count other : Int}
    (near : |count * unit - other * unit| < unit) : count = other := by
  rw [← sub_mul, abs_mul, abs_of_pos pos, mul_lt_iff_lt_one_left pos] at near
  have small : |count - other| < 1 := by exact_mod_cast near
  rw [Int.abs_lt_one_iff] at small
  omega

/-- A decimal is a multiple of the units of all finer grids. -/
theorem Scaled.exists_value_eq (decimal : Scaled) {exponent : Int}
    (finer : exponent ≤ decimal.exponent) :
    ∃ count : Int, decimal.value = count * 10 ^ exponent := by
  obtain ⟨size, difference⟩ := Int.eq_ofNat_of_zero_le (Int.sub_nonneg.mpr finer)
  refine ⟨decimal.digits * 10 ^ size, ?_⟩
  have split : (10 : ℚ) ^ decimal.exponent = 10 ^ size * 10 ^ exponent := by
    rw [← zpow_natCast, ← zpow_add₀ (by norm_num)]
    congr 1
    omega
  rw [Scaled.value, split]
  push_cast
  ring

/-! ## Intervals -/

namespace Interval

def lower (range : Interval) : ℚ := range.low / range.denominator

def middle (range : Interval) : ℚ := range.value / range.denominator

def upper (range : Interval) : ℚ := range.high / range.denominator

theorem admits_iff {range : Interval} (pos : 0 < range.denominator) {decimal : Scaled} :
    range.admits decimal = true ↔
      if range.closed then range.lower ≤ decimal.value ∧ decimal.value ≤ range.upper
      else range.lower < decimal.value ∧ decimal.value < range.upper := by
  have castPos : (0 : ℚ) < range.denominator := by exact_mod_cast pos
  obtain ⟨ratioPos, sameValue⟩ := decimal.ratio_spec
  have castRatioPos : (0 : ℚ) < decimal.ratio.2 := by exact_mod_cast ratioPos
  have found : range.admits decimal = range.contains decimal.ratio.1 decimal.ratio.2 := rfl
  rw [found, contains, lower, upper, ← sameValue]
  split
  · rw [div_le_div_iff₀ castPos castRatioPos, div_le_div_iff₀ castRatioPos castPos,
      Bool.and_eq_true, decide_eq_true_iff, decide_eq_true_iff]
    norm_cast
  · rw [div_lt_div_iff₀ castPos castRatioPos, div_lt_div_iff₀ castRatioPos castPos,
      Bool.and_eq_true, decide_eq_true_iff, decide_eq_true_iff]
    norm_cast

theorem le_and_le_of_admits {range : Interval} (pos : 0 < range.denominator) {decimal : Scaled}
    (admitted : range.admits decimal = true) :
    range.lower ≤ decimal.value ∧ decimal.value ≤ range.upper := by
  rw [admits_iff pos] at admitted
  split at admitted
  · exact admitted
  · exact ⟨admitted.1.le, admitted.2.le⟩

end Interval

/-- The interval of a number reaches half a place up, and half a place down or, below a power of
two, a quarter. -/
structure IsAround (range : Interval) (significand : Nat) (exponent : Int) : Prop where
  pos : 0 < range.denominator
  middle : range.middle = significand * 2 ^ exponent
  upper : range.upper = (significand + 1 / 2) * 2 ^ exponent
  lower : range.lower = (significand - 1 / 2) * 2 ^ exponent ∨
    (significand = 2 ^ 52 ∧ range.lower = (significand - 1 / 4) * 2 ^ exponent)
  closed : range.closed = true ↔ significand % 2 = 0

/-- The quarters of a place, of which a number is a multiple. -/
theorem ratio_eq_quarters (significand : Nat) (exponent : Int) :
    (Binary64.ratio (4 * significand) (exponent - 2)).1
        = 4 * significand * (Binary64.ratio 1 (exponent - 2)).1 ∧
      (Binary64.ratio (4 * significand) (exponent - 2)).2
        = (Binary64.ratio 1 (exponent - 2)).2 := by
  unfold Binary64.ratio
  split
  · simp
  · simp [Nat.shiftLeft_eq]

theorem isAround_interval {significand : Nat} (nonzero : 0 < significand) (exponent : Int) :
    IsAround (interval significand exponent) significand exponent := by
  obtain ⟨isMultiple, sameUnit⟩ := ratio_eq_quarters significand exponent
  obtain ⟨pos, sameRatio⟩ := Binary64.ratio_spec 1 (exponent - 2)
  set quarter := (Binary64.ratio 1 (exponent - 2)).1 with quarter_def
  set unit := (Binary64.ratio 1 (exponent - 2)).2 with unit_def
  have quarter_eq : (quarter : ℚ) / unit = 2 ^ exponent / 4 := by
    rw [sameRatio, zpow_sub₀ two_ne_zero]
    norm_num
  have least : (1 : ℚ) ≤ significand := by exact_mod_cast nonzero
  have scaled : ∀ count : ℚ, count * quarter / unit = count / 4 * 2 ^ exponent := by
    intro count
    rw [mul_div_assoc, quarter_eq]
    ring
  have narrowed : ∀ gap : Nat, gap ≤ 2 →
      ((4 * significand * quarter - gap * quarter : Nat) : ℚ) / unit
        = (significand - gap / 4) * 2 ^ exponent := by
    intro gap small
    have fits : gap * quarter ≤ 4 * significand * quarter :=
      Nat.mul_le_mul_right quarter (by omega)
    rw [Nat.cast_sub fits]
    push_cast
    rw [← sub_mul, scaled]
    ring
  have shape : interval significand exponent
      = { low := 4 * significand * quarter
            - (if (significand == 1 <<< 52 && decide (Binary64.leastExponent < exponent)) = true
                then quarter else 2 * quarter)
          value := 4 * significand * quarter
          high := 4 * significand * quarter + 2 * quarter
          denominator := unit
          closed := significand % 2 == 0 } := by
    rw [← isMultiple, ← sameUnit]
    rfl
  rw [shape]
  refine ⟨pos, ?_, ?_, ?_, beq_iff_eq⟩
  · show ((4 * significand * quarter : Nat) : ℚ) / unit = _
    push_cast
    rw [scaled]
    ring
  · show ((4 * significand * quarter + 2 * quarter : Nat) : ℚ) / unit = _
    push_cast
    rw [← add_mul, scaled]
    ring
  · simp only [Interval.lower]
    split
    · rename_i narrow
      have isPower : significand = 2 ^ 52 := by
        simpa using (Bool.and_eq_true_iff.mp narrow).1
      have := narrowed 1 (by decide)
      simp only [one_mul, Nat.cast_one] at this
      exact Or.inr ⟨isPower, this⟩
    · rw [narrowed 2 (le_refl 2)]
      norm_num

/-- What is nearest to a number reads back as it. -/
theorem admits_of_isNearest {significand : Nat} {exponent : Int} {decimal : Scaled}
    (nearest : Binary64.IsNearest decimal.value significand exponent) :
    (interval significand exponent).admits decimal = true := by
  have nonzero : 0 < significand := lt_of_lt_of_le (by decide) nearest.normal
  have around := isAround_interval nonzero exponent
  rw [Interval.admits_iff around.pos, around.upper]
  split
  · refine ⟨?_, nearest.high⟩
    rcases around.lower with lower | ⟨isPower, lower⟩
    · exact lower ▸ nearest.low
    · exact lower ▸ nearest.narrow isPower
  · rename_i notClosed
    have odd : significand % 2 = 1 := by
      have := mt around.closed.mpr notClosed
      omega
    refine ⟨?_, (nearest.strict odd).2⟩
    rcases around.lower with lower | ⟨isPower, _⟩
    · exact lower ▸ (nearest.strict odd).1
    · rw [isPower] at odd
      exact absurd odd (by decide)

/-- What reads back as a number is at most half a place away from it. -/
theorem abs_sub_le_of_admits {significand : Nat} (nonzero : 0 < significand) {exponent : Int}
    {decimal : Scaled} (admitted : (interval significand exponent).admits decimal = true) :
    |decimal.value - significand * 2 ^ exponent| ≤ 1 / 2 * 2 ^ exponent := by
  have around := isAround_interval nonzero exponent
  have pos := Binary64.two_zpow_pos exponent
  obtain ⟨low, high⟩ := Interval.le_and_le_of_admits around.pos admitted
  rw [around.upper] at high
  rw [abs_le]
  constructor
  · rcases around.lower with lower | ⟨_, lower⟩
    · rw [lower] at low
      linarith
    · rw [lower] at low
      linarith
  · linarith

/-! ## Leading digits -/

theorem toDigits_bounds {number : Nat} (pos : 0 < number) :
    10 ^ ((Nat.toDigits 10 number).length - 1) ≤ number ∧
      number < 10 ^ (Nat.toDigits 10 number).length := by
  have hasDigits : 0 < (Nat.toDigits 10 number).length := Nat.length_toDigits_pos
  refine ⟨?_, (Nat.length_toDigits_le_iff (by decide) hasDigits).mp (le_refl _)⟩
  by_contra small
  rcases Nat.eq_zero_or_pos ((Nat.toDigits 10 number).length - 1) with one | more
  · rw [one] at small
    exact small pos
  · have := (Nat.length_toDigits_le_iff (by decide) more).mpr (not_le.mp small)
    omega

/-- The leading exponent of a ratio is the greatest power of ten that is not above it. -/
theorem leadingExponent_spec {numerator denominator : Nat} (numeratorPos : 0 < numerator)
    (denominatorPos : 0 < denominator) :
    (10 : ℚ) ^ leadingExponent numerator denominator ≤ numerator / denominator ∧
      (numerator / denominator : ℚ) < 10 ^ (leadingExponent numerator denominator + 1) := by
  have castNumerator : (0 : ℚ) < numerator := by exact_mod_cast numeratorPos
  have castDenominator : (0 : ℚ) < denominator := by exact_mod_cast denominatorPos
  unfold leadingExponent
  split
  · rename_i large
    have quotientPos : 0 < numerator / denominator := Nat.div_pos large denominatorPos
    obtain ⟨low, high⟩ := toDigits_bounds quotientPos
    obtain ⟨size, length_eq⟩ :
        ∃ size, (Nat.toDigits 10 (numerator / denominator)).length = size + 1 :=
      Nat.exists_eq_add_one.mpr Nat.length_toDigits_pos
    rw [length_eq] at low high ⊢
    have lowProduct := (Nat.le_div_iff_mul_le denominatorPos).mp low
    have highProduct := (Nat.div_lt_iff_lt_mul denominatorPos).mp high
    push_cast
    rw [add_sub_cancel_right, ← Nat.cast_succ, zpow_natCast, zpow_natCast,
      le_div_iff₀ castDenominator, div_lt_iff₀ castDenominator]
    exact ⟨by exact_mod_cast lowProduct, by exact_mod_cast highProduct⟩
  · rename_i small
    have quotientPos : 0 < (denominator - 1) / numerator := Nat.div_pos (by omega) numeratorPos
    obtain ⟨low, high⟩ := toDigits_bounds quotientPos
    obtain ⟨size, length_eq⟩ :
        ∃ size, (Nat.toDigits 10 ((denominator - 1) / numerator)).length = size + 1 :=
      Nat.exists_eq_add_one.mpr Nat.length_toDigits_pos
    rw [length_eq] at low high ⊢
    have lowProduct : 10 ^ size * numerator < denominator := by
      have := (Nat.le_div_iff_mul_le numeratorPos).mp low
      simp only [add_tsub_cancel_right] at this
      omega
    have highProduct : denominator ≤ 10 ^ (size + 1) * numerator := by
      have := (Nat.div_lt_iff_lt_mul numeratorPos).mp high
      omega
    have next : -((size + 1 : Nat) : Int) + 1 = -(size : Int) := by push_cast; ring
    rw [next, zpow_neg, zpow_neg, zpow_natCast, zpow_natCast,
      inv_le_iff_one_le_mul₀ (by positivity), div_lt_iff₀ castDenominator, ← div_eq_inv_mul,
      lt_div_iff₀ (by positivity), div_mul_eq_mul_div, one_le_div castDenominator]
    rw [mul_comm] at lowProduct highProduct
    exact ⟨by exact_mod_cast highProduct, by exact_mod_cast lowProduct⟩

/-! ## Grids -/

namespace Interval

variable {range : Interval} {exponent : Int}

/-- The value in units of a grid. -/
def units (range : Interval) (exponent : Int) : Nat × Nat :=
  if exponent < 0 then (range.value * Nat.pow 10 exponent.natAbs, range.denominator)
  else (range.value, range.denominator * Nat.pow 10 exponent.natAbs)

theorem units_spec (pos : 0 < range.denominator) (exponent : Int) :
    0 < (range.units exponent).2 ∧
      ((range.units exponent).1 : ℚ) / (range.units exponent).2 = range.middle / 10 ^ exponent := by
  have castPos : (0 : ℚ) < range.denominator := by exact_mod_cast pos
  unfold units middle
  split
  · rename_i negative
    obtain ⟨size, rfl⟩ := Int.exists_eq_neg_ofNat negative.le
    simp only [Int.natAbs_neg, Int.natAbs_natCast, Nat.pow_eq, zpow_neg, zpow_natCast]
    refine ⟨pos, ?_⟩
    push_cast
    field_simp
  · rename_i nonneg
    obtain ⟨size, rfl⟩ := Int.eq_ofNat_of_zero_le (not_lt.mp nonneg)
    simp only [Int.natAbs_natCast, Nat.pow_eq, zpow_natCast]
    refine ⟨by positivity, ?_⟩
    push_cast
    field_simp

theorem onGrid_eq (range : Interval) (exponent : Int) :
    range.onGrid exponent
      = (let count := (range.units exponent).1 / (range.units exponent).2
        match range.admits ⟨count, exponent⟩, range.admits ⟨count + 1, exponent⟩ with
        | true, true =>
            if Binary64.roundQuotient (range.units exponent).1 (range.units exponent).2 == count
            then some ⟨count, exponent⟩
            else some ⟨count + 1, exponent⟩
        | true, false => some ⟨count, exponent⟩
        | false, true => some ⟨count + 1, exponent⟩
        | false, false => none) := rfl

theorem admits_of_onGrid {decimal : Scaled} (found : range.onGrid exponent = some decimal) :
    range.admits decimal = true ∧ decimal.exponent = exponent := by
  rw [onGrid_eq] at found
  dsimp only at found
  generalize (range.units exponent).1 / (range.units exponent).2 = count at found
  split at found
  · rename_i below above
    split at found
    · cases found
      exact ⟨below, rfl⟩
    · cases found
      exact ⟨above, rfl⟩
  · rename_i below _
    cases found
    exact ⟨below, rfl⟩
  · rename_i _ above
    cases found
    exact ⟨above, rfl⟩
  · cases found

/-- On the grid of a decimal that reads back and is less than a unit away, one is found. -/
theorem exists_onGrid (pos : 0 < range.denominator) {decimal : Scaled}
    (admitted : range.admits decimal = true)
    (near : |decimal.value - range.middle| < 10 ^ decimal.exponent) :
    ∃ found, range.onGrid decimal.exponent = some found := by
  obtain ⟨digits, exponent⟩ := decimal
  obtain ⟨unitPos, sameRatio⟩ := range.units_spec pos exponent
  set count := (range.units exponent).1 / (range.units exponent).2 with count_def
  have gridPos := ten_zpow_pos exponent
  have castUnitPos : (0 : ℚ) < (range.units exponent).2 := by exact_mod_cast unitPos
  have countLow : (count : ℚ) ≤ range.middle / 10 ^ exponent := by
    rw [← sameRatio, le_div_iff₀ castUnitPos]
    exact_mod_cast Nat.div_mul_le_self _ _
  have countHigh : range.middle / 10 ^ exponent < (count : ℚ) + 1 := by
    rw [← sameRatio, div_lt_iff₀ castUnitPos]
    have := Nat.lt_mul_div_succ (range.units exponent).1 unitPos
    rw [mul_comm] at this
    exact_mod_cast this
  have isNeighbour : digits = count ∨ digits = count + 1 := by
    have nearCount : |(digits : ℚ) - range.middle / 10 ^ exponent| < 1 := by
      have scaled : (⟨digits, exponent⟩ : Scaled).value - range.middle
          = ((digits : ℚ) - range.middle / 10 ^ exponent) * 10 ^ exponent := by
        rw [Scaled.value, sub_mul, div_mul_cancel₀ _ gridPos.ne']
      rw [scaled, abs_mul, abs_of_pos gridPos] at near
      exact (mul_lt_iff_lt_one_left gridPos).mp near
    obtain ⟨low, high⟩ := abs_lt.mp nearCount
    have notBelow : count < digits + 1 := by
      have : (count : ℚ) < digits + 1 := by linarith
      exact_mod_cast this
    have notAbove : digits < count + 2 := by
      have : (digits : ℚ) < count + 2 := by linarith
      exact_mod_cast this
    omega
  rw [onGrid_eq]
  dsimp only
  rw [← count_def]
  rcases isNeighbour with same | same
  · rw [← same, admitted]
    split
    · exact (ite_eq_or_eq _ _ _).elim (fun eq => ⟨_, eq⟩) fun eq => ⟨_, eq⟩
    · exact ⟨_, rfl⟩
    · exact ⟨_, rfl⟩
    · rename_i contra _
      cases contra
  · rw [← same, admitted]
    split
    · exact (ite_eq_or_eq _ _ _).elim (fun eq => ⟨_, eq⟩) fun eq => ⟨_, eq⟩
    · rename_i _ contra
      cases contra
    · exact ⟨_, rfl⟩
    · rename_i _ contra
      cases contra

end Interval

/-! ## The search -/

/-- A search that starts on a coarser grid than one on which a decimal is found ends with a number,
if that number is the only one that is found on the way. -/
theorem value_search {range : Interval} {exponent : Int} {number : ℚ}
    (found : ∃ decimal, range.onGrid exponent = some decimal)
    (unique : ∀ grid decimal, exponent ≤ grid → range.onGrid grid = some decimal →
      decimal.value = number) :
    ∀ {fuel : Nat} {start : Int}, exponent ≤ start → start < exponent + fuel →
      (search range start fuel).value = number
  | 0, start, coarser, enough => by omega
  | fuel + 1, start, coarser, enough => by
      unfold search
      cases here : range.onGrid start with
      | some decimal => exact unique start decimal coarser here
      | none =>
          have notLast : start ≠ exponent := by
            rintro rfl
            obtain ⟨decimal, isSome⟩ := found
            cases here.symm.trans isSome
          exact value_search found unique (by omega) (by push_cast at enough; omega)

/-- The decimals of few digits lie much further from each other than the numbers that they are
rounded to. -/
theorem place_lt_unit {significand : Nat} {exponent : Int} {decimal : Scaled}
    (nearest : Binary64.IsNearest decimal.value significand exponent)
    (few : decimal.digits < 10 ^ 15) : 4 * (2 : ℚ) ^ exponent < 10 ^ decimal.exponent := by
  have place := Binary64.two_zpow_pos exponent
  have unit := ten_zpow_pos decimal.exponent
  have normal : (2 : ℚ) ^ 52 ≤ significand := by exact_mod_cast nearest.normal
  have castFew : (decimal.digits : ℚ) < 10 ^ 15 := by exact_mod_cast few
  have scaled : (10 ^ 15 : ℚ) * (4 * 2 ^ exponent) < 10 ^ 15 * 10 ^ decimal.exponent := by
    calc
      (10 ^ 15 : ℚ) * (4 * 2 ^ exponent) = 4 * 10 ^ 15 * 2 ^ exponent := by ring
      _ ≤ (2 ^ 52 - 1 / 2) * 2 ^ exponent := by
        gcongr
        norm_num
      _ ≤ ((significand : ℚ) - 1 / 2) * 2 ^ exponent := by gcongr
      _ ≤ decimal.value := nearest.low
      _ < 10 ^ 15 * 10 ^ decimal.exponent := by
        unfold Scaled.value
        gcongr
  exact lt_of_mul_lt_mul_left scaled (by norm_num)

/-- On the grid of a decimal of few digits and on coarser ones nothing else reads back as the number
that it is rounded to. -/
theorem value_eq_of_onGrid {significand : Nat} {exponent grid : Int} {decimal found : Scaled}
    (nearest : Binary64.IsNearest decimal.value significand exponent)
    (few : decimal.digits < 10 ^ 15) (coarser : decimal.exponent ≤ grid)
    (isFound : (interval significand exponent).onGrid grid = some found) :
    found.value = decimal.value := by
  have nonzero : 0 < significand := lt_of_lt_of_le (by decide) nearest.normal
  have place := Binary64.two_zpow_pos exponent
  obtain ⟨admitted, rfl⟩ := Interval.admits_of_onGrid isFound
  have nearFound := abs_le.mp (abs_sub_le_of_admits nonzero admitted)
  have near := abs_le.mp (abs_sub_le_of_admits nonzero (admits_of_isNearest nearest))
  have closer := place_lt_unit nearest few
  obtain ⟨count, isMultiple⟩ := decimal.exists_value_eq (le_refl decimal.exponent)
  obtain ⟨foundCount, foundIsMultiple⟩ := found.exists_value_eq coarser
  have apart : |(foundCount : ℚ) * 10 ^ decimal.exponent - count * 10 ^ decimal.exponent|
      < (10 : ℚ) ^ decimal.exponent := by
    rw [← isMultiple, ← foundIsMultiple, abs_lt]
    constructor <;> linarith
  rw [isMultiple, foundIsMultiple, eq_of_abs_sub_lt (ten_zpow_pos _) apart]

/-- A decimal of few digits is found again from the number that it is rounded to. Without its last
unit it must not be zero, since the search may start on its grid. -/
theorem value_ofFinite {significand : Nat} {exponent : Int} {decimal : Scaled}
    (nearest : Binary64.IsNearest decimal.value significand exponent)
    (notOne : 2 ≤ decimal.digits) (few : decimal.digits < 10 ^ 15) :
    (ofFinite significand exponent).value = decimal.value := by
  have nonzero : 0 < significand := lt_of_lt_of_le (by decide) nearest.normal
  have around := isAround_interval nonzero exponent
  have place := Binary64.two_zpow_pos exponent
  have unit := ten_zpow_pos decimal.exponent
  have admitted := admits_of_isNearest nearest
  have closer := place_lt_unit nearest few
  have near : |decimal.value - (interval significand exponent).middle| ≤ 1 / 2 * 2 ^ exponent := by
    rw [around.middle]
    exact abs_sub_le_of_admits nonzero admitted
  obtain ⟨nearLow, nearHigh⟩ := abs_le.mp near
  have atLeast : (2 : ℚ) * 10 ^ decimal.exponent ≤ decimal.value := by
    unfold Scaled.value
    gcongr
    exact_mod_cast notOne
  have atMost : decimal.value < 10 ^ 15 * 10 ^ decimal.exponent := by
    unfold Scaled.value
    gcongr
    exact_mod_cast few
  have valuePos : 0 < (interval significand exponent).value := by
    by_contra zero
    have middleZero : (interval significand exponent).middle = 0 := by
      rw [Interval.middle, Nat.eq_zero_of_not_pos zero, Nat.cast_zero, zero_div]
    linarith
  obtain ⟨low, high⟩ := leadingExponent_spec valuePos around.pos
  set start := leadingExponent (interval significand exponent).value
    (interval significand exponent).denominator with start_def
  have middle_eq : ((interval significand exponent).value : ℚ)
      / (interval significand exponent).denominator = (interval significand exponent).middle := rfl
  rw [middle_eq] at low high
  refine value_search (Interval.exists_onGrid around.pos admitted ?_)
    (fun grid found coarser isFound => value_eq_of_onGrid nearest few coarser isFound) ?_ ?_
  · exact lt_of_le_of_lt near (by linarith)
  · have : (10 : ℚ) ^ decimal.exponent < 10 ^ (start + 1) := by linarith
    have := (zpow_lt_zpow_iff_right₀ (by norm_num)).mp this
    omega
  · have split : (10 : ℚ) ^ (decimal.exponent + 16) = 10 ^ 16 * 10 ^ decimal.exponent := by
      rw [zpow_add₀ (by norm_num), mul_comm]
      norm_num
    have : (10 : ℚ) ^ start < 10 ^ (decimal.exponent + 16) := by
      rw [split]
      linarith
    have := (zpow_lt_zpow_iff_right₀ (by norm_num)).mp this
    push_cast
    omega

end Shortest

end DriverKit.Decimal
