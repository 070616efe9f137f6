import DriverKit.Proofs.Decimal.Shortest
import DriverKit.Proofs.Decimal.Zeros

/-!
# Numbers written as decimals

A decimal of at most fifteen digits that is read as a number is written as it was, but for zeros at
its end: these are lost. Whatever a number is, no text of a number has a zero at its end after
another digit after the point.
-/

namespace DriverKit.Decimal

open DriverKit.Text

/-! ## Decimals of one value -/

namespace Shortest

/-- Decimals that stand for the same number have the same digits up to zeros at their end, and the
same leading exponent. -/
theorem Scaled.layout_eq {decimal other : Scaled} (same : decimal.value = other.value)
    (pos : 0 < decimal.digits) (otherPos : 0 < other.digits) :
    dropZeros (Nat.toDigits 10 decimal.digits) = dropZeros (Nat.toDigits 10 other.digits) ∧
      decimal.exponent + (Nat.toDigits 10 decimal.digits).length
        = other.exponent + (Nat.toDigits 10 other.digits).length := by
  wlog ordered : other.exponent ≤ decimal.exponent generalizing decimal other
  · obtain ⟨sameDigits, sameLeading⟩ := this same.symm otherPos pos (not_le.mp ordered).le
    exact ⟨sameDigits.symm, sameLeading.symm⟩
  obtain ⟨zeros, difference⟩ := Int.eq_ofNat_of_zero_le (Int.sub_nonneg.mpr ordered)
  have split : (10 : ℚ) ^ decimal.exponent = 10 ^ zeros * 10 ^ other.exponent := by
    rw [← zpow_natCast, ← zpow_add₀ (by norm_num)]
    congr 1
    omega
  have isMultiple : other.digits = decimal.digits * 10 ^ zeros := by
    rw [value, value, split, ← mul_assoc] at same
    have := mul_right_cancel₀ (ten_zpow_pos other.exponent).ne' same
    exact_mod_cast this.symm
  rw [isMultiple, toDigits_mul_ten_pow pos, dropZeros_append_replicate]
  refine ⟨rfl, ?_⟩
  rw [List.length_append, List.length_replicate]
  push_cast
  omega

end Shortest

/-! ## Decimals that are read -/

open Shortest (Scaled)

/-- A decimal of few digits, not all of them long after the point, is read as the nearest number. -/
theorem Binary64.exists_ofDecimal {digits places : Nat} (pos : 0 < digits)
    (few : digits < 10 ^ 15) (somePlaces : 0 < places) (fewPlaces : places ≤ 15) :
    ∃ significand exponent,
      ofDecimal false digits (-(places : Int)) = .finite false significand exponent ∧
        IsNearest (Scaled.value ⟨digits, -places⟩) significand exponent := by
  have lengthPos : 0 < (Nat.toDigits 10 digits).length := Nat.length_toDigits_pos
  have length_le : (Nat.toDigits 10 digits).length ≤ 15 :=
    (Nat.length_toDigits_le_iff (by decide) (by decide)).mpr few
  have made : ofDecimal false digits (-(places : Int)) = ofRatio false digits (10 ^ places) := by
    unfold ofDecimal
    rw [if_neg (by simpa using pos.ne')]
    dsimp only
    rw [if_neg (by omega), if_neg (by omega), if_pos (by omega), Int.natAbs_neg,
      Int.natAbs_natCast, Nat.pow_eq]
  have value_eq : Scaled.value ⟨digits, -places⟩ = (digits : ℚ) / (10 ^ places : Nat) := by
    rw [Scaled.value, zpow_neg, zpow_natCast, div_eq_mul_inv]
    push_cast
    rfl
  have castPos : (1 : ℚ) ≤ digits := by exact_mod_cast pos
  have castFew : (digits : ℚ) < 10 ^ 15 := by exact_mod_cast few
  have placesLow : (1 : ℚ) ≤ (10 ^ places : Nat) := by exact_mod_cast Nat.one_le_pow _ _ (by decide)
  have placesHigh : ((10 ^ places : Nat) : ℚ) ≤ 10 ^ 15 := by
    exact_mod_cast Nat.pow_le_pow_right (by decide) fewPlaces
  rw [made, value_eq]
  refine exists_ofRatio false (by positivity) ?_ ?_
  · calc
      leastNormal ≤ 2 ^ (-50 : Int) := zpow_le_zpow_right₀ one_le_two (by decide)
      _ ≤ 1 / 10 ^ 15 := by norm_num
      _ ≤ (digits : ℚ) / (10 ^ places : Nat) := by gcongr
  · calc
      (digits : ℚ) / (10 ^ places : Nat) ≤ digits := div_le_self (by linarith) placesLow
      _ < 10 ^ 15 := castFew
      _ ≤ 2 ^ (50 : Int) := by norm_num
      _ ≤ 2 ^ (1022 : Int) := zpow_le_zpow_right₀ one_le_two (by decide)

/-- How a decimal is written out. -/
def written (decimal : Scaled) : List Char :=
  placePoint (dropZeros (Nat.toDigits 10 decimal.digits))
    (decimal.exponent + (Nat.toDigits 10 decimal.digits).length - 1)

/-- The number that a decimal of few digits is rounded to is written as the decimal, if that is not
too large or too small to be written out. -/
theorem Binary64.text_of_isNearest {significand : Nat} {exponent : Int} {decimal : Scaled}
    (nearest : IsNearest decimal.value significand exponent)
    (notOne : 2 ≤ decimal.digits) (few : decimal.digits < 10 ^ 15)
    (notSmall : -3 ≤ decimal.exponent + (Nat.toDigits 10 decimal.digits).length)
    (notLarge : decimal.exponent + (Nat.toDigits 10 decimal.digits).length ≤ 16) :
    text (.finite false significand exponent) = String.ofList (written decimal) := by
  have sameValue := Shortest.value_ofFinite nearest notOne few
  have nonzero : significand ≠ 0 := by
    have := nearest.normal
    omega
  have found : 0 < (Shortest.ofFinite significand exponent).digits := by
    by_contra zero
    have isPositive : 0 < decimal.value := by
      have : (2 : ℚ) ≤ decimal.digits := by exact_mod_cast notOne
      have := Shortest.ten_zpow_pos decimal.exponent
      unfold Scaled.value
      positivity
    rw [← sameValue, Scaled.value, Nat.eq_zero_of_not_pos zero] at isPositive
    simp at isPositive
  obtain ⟨sameDigits, sameLeading⟩ := Scaled.layout_eq sameValue found (by omega)
  have isPlain : Layout.usual.firstPlain
        ≤ decimal.exponent + (Nat.toDigits 10 decimal.digits).length - 1 ∧
      decimal.exponent + (Nat.toDigits 10 decimal.digits).length - 1 < Layout.usual.endPlain := by
    unfold Layout.usual
    constructor
    · dsimp only; omega
    · dsimp only; omega
  unfold text
  simp only [beq_iff_eq, nonzero, Bool.false_eq_true, if_false, sameDigits, sameLeading]
  rw [if_pos (by simpa using isPlain)]
  rfl

/-! ## A point between numerals -/

/-- The digits of two numbers, one after the other. -/
def joined (major minor : Nat) : Nat :=
  plainNumber (Nat.toDigits 10 major ++ Nat.toDigits 10 minor)

theorem joined_zero (minor : Nat) : joined 0 minor = minor := by
  have zero : Nat.toDigits 10 0 = ['0'] := rfl
  have skipped : ∀ digits, plainNumber ('0' :: digits) = plainNumber digits := fun _ => rfl
  rw [joined, zero, List.singleton_append, skipped, plainNumber_toDigits]

theorem toDigits_joined {major : Nat} (pos : 0 < major) (minor : Nat) :
    Nat.toDigits 10 (joined major minor) = Nat.toDigits 10 major ++ Nat.toDigits 10 minor := by
  have plain := isPlainDigit_of_isNumeral (isNumeral_toDigits minor)
  rw [toDigits_append_digits pos plain, joined, plainNumber_eq_ofDigitChars,
    Nat.ofDigitChars_append, Nat.ofDigitChars_ten_toDigits]

theorem placePoint_append {front back : List Char} (frontDigits : front ≠ [])
    (backDigits : back ≠ []) :
    placePoint (front ++ back) (front.length - 1) = front ++ '.' :: back := by
  have pos := List.length_pos_iff.mpr frontDigits
  have whole : ((front.length : Int) - 1).natAbs + 1 = front.length := by omega
  have noZeros : back.isEmpty = false := by simpa using backDigits
  rw [placePoint, if_neg (by omega)]
  simp only [whole, List.take_left, List.drop_left, Nat.sub_self, List.replicate_zero,
    List.append_nil, noZeros, Bool.false_eq_true, if_false]

theorem placePoint_zeros {digits : List Char} (nonempty : digits ≠ []) (zeros : Nat) :
    placePoint digits ((digits ++ List.replicate zeros '0').length - 1)
      = digits ++ List.replicate zeros '0' ++ ['.', '0'] := by
  have pos := List.length_pos_iff.mpr nonempty
  rw [List.length_append, List.length_replicate]
  have whole : (((digits.length + zeros : Nat) : Int) - 1).natAbs + 1 = digits.length + zeros := by
    omega
  rw [placePoint, if_neg (by omega)]
  simp only [whole, List.take_of_length_le (Nat.le_add_right digits.length zeros),
    List.drop_of_length_le (Nat.le_add_right digits.length zeros), Nat.add_sub_cancel_left,
    List.isEmpty_nil, if_true]

/-- Two numbers with a point between them are written so, but without zeros at the end. -/
theorem written_joined {major minor : Nat} (nonzero : 0 < major ∨ 0 < minor) :
    written ⟨joined major minor, -((Nat.toDigits 10 minor).length : Int)⟩
      = Nat.toDigits 10 major ++ '.' :: dropZeros (Nat.toDigits 10 minor) := by
  have zero : Nat.toDigits 10 0 = ['0'] := rfl
  unfold written
  dsimp only
  rcases Nat.eq_zero_or_pos major with rfl | majorPos
  · have leading : -((Nat.toDigits 10 minor).length : Int) + (Nat.toDigits 10 minor).length - 1
        = -1 := by ring
    rw [joined_zero, leading, zero]
    rfl
  · have leading : -((Nat.toDigits 10 minor).length : Int)
        + (Nat.toDigits 10 major ++ Nat.toDigits 10 minor).length - 1
          = (Nat.toDigits 10 major).length - 1 := by
      rw [List.length_append]
      push_cast
      ring
    have majorDigits := ne_nil_of_isNumeral (isNumeral_toDigits major)
    rw [toDigits_joined majorPos, leading]
    rcases Nat.eq_zero_or_pos minor with rfl | minorPos
    · obtain ⟨zeros, split⟩ := exists_dropZeros_append (hasNonzero_toDigits majorPos)
      have dropped : dropZeros (Nat.toDigits 10 major ++ Nat.toDigits 10 0)
          = dropZeros (Nat.toDigits 10 major) :=
        dropZeros_append_replicate (Nat.toDigits 10 major) 1
      have placed := placePoint_zeros (dropZeros_ne_nil (Nat.toDigits 10 major)) zeros
      rw [← split] at placed
      rw [dropped, placed]
      rfl
    · rw [dropZeros_append _ (hasNonzero_toDigits minorPos)]
      exact placePoint_append majorDigits (dropZeros_ne_nil _)

/-! ## Reading and writing -/

theorem isNumeral_append {front back : List Char} (frontNumeral : isNumeral front = true)
    (backNumeral : isNumeral back = true) : isNumeral (front ++ back) = true := by
  simp only [isNumeral, Bool.and_eq_true, Bool.not_eq_true', List.isEmpty_eq_false_iff,
    List.all_append] at frontNumeral backNumeral ⊢
  exact ⟨List.append_ne_nil_of_left_ne_nil frontNumeral.1 back, frontNumeral.2, backNumeral.2⟩

theorem two_le_joined {major minor : Nat} (notOne : 0 < major ∨ 2 ≤ minor) :
    2 ≤ joined major minor := by
  rcases Nat.eq_zero_or_pos major with rfl | pos
  · rw [joined_zero]
    omega
  · have twoDigits : ¬(Nat.toDigits 10 (joined major minor)).length ≤ 1 := by
      have majorLength : 0 < (Nat.toDigits 10 major).length := Nat.length_toDigits_pos
      have minorLength : 0 < (Nat.toDigits 10 minor).length := Nat.length_toDigits_pos
      rw [toDigits_joined pos, List.length_append]
      omega
    rw [Nat.length_toDigits_le_iff (by decide) (by decide)] at twoDigits
    omega

/-- The number nearest to the decimal that has one number before the point and one after it. -/
def Binary64.ofPointed (major minor : Nat) : Binary64 :=
  ofDecimal false (joined major minor) (-((Nat.toDigits 10 minor).length : Int))

/-- A decimal of at most fifteen digits that is read as a number is written as it was, but without
zeros at its end. -/
theorem Binary64.text_ofPointed {major minor : Nat}
    (few : (Nat.toDigits 10 major).length + (Nat.toDigits 10 minor).length ≤ 15) :
    text (ofPointed major minor)
      = String.ofList
          (Nat.toDigits 10 major ++ '.' :: Nat.toDigits 10 (withoutLastZeros minor)) := by
  rw [ofPointed, ← dropZeros_toDigits]
  have majorLength : 0 < (Nat.toDigits 10 major).length := Nat.length_toDigits_pos
  have minorLength : 0 < (Nat.toDigits 10 minor).length := Nat.length_toDigits_pos
  by_cases notOne : 0 < major ∨ 2 ≤ minor
  · have large := two_le_joined notOne
    have small : joined major minor < 10 ^ 15 := by
      have digits := isNumeral_append (isNumeral_toDigits major) (isNumeral_toDigits minor)
      refine lt_of_lt_of_le (plainNumber_lt digits) (Nat.pow_le_pow_right (by decide) ?_)
      rwa [List.length_append]
    have leading : -((Nat.toDigits 10 minor).length : Int)
          + (Nat.toDigits 10 (joined major minor)).length
        = if major = 0 then 0 else ((Nat.toDigits 10 major).length : Int) := by
      split
      · rename_i zero
        rw [zero, joined_zero]
        ring
      · rename_i nonzero
        rw [toDigits_joined (Nat.pos_of_ne_zero nonzero), List.length_append]
        push_cast
        ring
    obtain ⟨significand, exponent, read, nearest⟩ :=
      exists_ofDecimal (by omega) small minorLength (by omega)
    rw [read, text_of_isNearest nearest large small]
    · rw [written_joined (by omega)]
    · dsimp only
      rw [leading]
      split <;> omega
    · dsimp only
      rw [leading]
      split <;> omega
  · obtain rfl : major = 0 := by omega
    rw [joined_zero]
    rcases (by omega : minor = 0 ∨ minor = 1) with rfl | rfl
    · rfl
    · decide +kernel

/-! ## No zeros at the end -/

/-- Characters are two numerals with a point between them, the second of which is zero or does not
end in a zero. -/
def IsPointed (characters : List Char) : Prop :=
  ∃ front back, characters = front ++ '.' :: back ∧ isNumeral front = true ∧
    isNumeral back = true ∧ (plainNumber back = 0 ∨ plainNumber back % 10 ≠ 0)

theorem isPointed_placePoint {digits : List Char} (numeral : isNumeral digits = true)
    (ends : digits = ['0'] ∨ EndsInNonzero digits) (leading : Int) :
    IsPointed (placePoint digits leading) := by
  have plain := isPlainDigit_of_isNumeral numeral
  have nonempty := ne_nil_of_isNumeral numeral
  have zeroPlain : ∀ count, ∀ c ∈ List.replicate count '0', isPlainDigit c = true :=
    fun count c member => (List.mem_replicate.mp member).2 ▸ rfl
  unfold placePoint
  split
  · have backNumeral : isNumeral (List.replicate (leading.natAbs - 1) '0' ++ digits) = true :=
      isNumeral_of_forall (List.append_ne_nil_of_right_ne_nil _ nonempty) fun c member =>
        (List.mem_append.mp member).elim (zeroPlain _ c) (plain c)
    refine ⟨['0'], List.replicate (leading.natAbs - 1) '0' ++ digits, rfl, rfl, backNumeral, ?_⟩
    rcases ends with rfl | ends
    · rw [← List.replicate_succ']
      exact Or.inl (plainNumber_replicate_zero _)
    · exact Or.inr (plainNumber_mod_ten backNumeral (ends.append _))
  · dsimp only
    set whole := leading.natAbs + 1 with whole_def
    have frontSome : digits.take whole ≠ [] := by
      rw [← List.length_pos_iff, List.length_take]
      have := List.length_pos_iff.mpr nonempty
      omega
    have frontNumeral : isNumeral (digits.take whole
        ++ List.replicate (whole - (digits.take whole).length) '0') = true :=
      isNumeral_of_forall (List.append_ne_nil_of_left_ne_nil frontSome _) fun c member =>
        (List.mem_append.mp member).elim (fun taken => plain c (List.mem_of_mem_take taken))
          (zeroPlain _ c)
    by_cases nothing : digits.drop whole = []
    · rw [nothing]
      exact ⟨_, ['0'], rfl, frontNumeral, rfl, Or.inl rfl⟩
    · have backNumeral : isNumeral (digits.drop whole) = true :=
        isNumeral_of_forall nothing fun c dropped => plain c (List.mem_of_mem_drop dropped)
      have notZero : digits ≠ ['0'] := by
        rintro rfl
        exact nothing (List.drop_of_length_le (by simp [whole_def]))
      have isBack : (if (digits.drop whole).isEmpty then ['0'] else digits.drop whole)
          = digits.drop whole := if_neg (by simpa using nothing)
      rw [isBack]
      exact ⟨_, _, rfl, frontNumeral, backNumeral,
        Or.inr (plainNumber_mod_ten backNumeral ((ends.resolve_left notZero).drop nothing))⟩

/-- The text of a number is pointed, unless it has a minus or a letter in it. -/
theorem Binary64.text_cases (number : Binary64) :
    (∃ c ∈ (text number).toList, c ∈ ['-', 'e', 'i', 'n']) ∨ IsPointed (text number).toList := by
  cases number with
  | nan => exact Or.inl ⟨'n', by decide, by decide⟩
  | infinite negative =>
      refine Or.inl ⟨'i', ?_, by decide⟩
      cases negative <;> decide
  | finite negative significand exponent =>
      unfold text
      rw [String.toList_ofList]
      cases negative with
      | true => exact Or.inl ⟨'-', List.mem_cons_self, by decide⟩
      | false =>
          simp only [Bool.false_eq_true, if_false]
          split
          · exact Or.inr ⟨['0'], ['0'], rfl, rfl, rfl, Or.inl rfl⟩
          · split
            · exact Or.inr (isPointed_placePoint (isNumeral_dropZeros (isNumeral_toDigits _))
                (eq_zero_or_endsInNonzero _) _)
            · refine Or.inl ⟨'e', ?_, by decide⟩
              unfold placeExponent
              simp

end DriverKit.Decimal
