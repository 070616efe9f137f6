import DriverKit.Decimal.Shortest
import DriverKit.Proofs.Text.Numeral
import Mathlib.Data.List.TakeWhile
import Mathlib.Tactic.Ring

/-!
# Digits without zeros at their end

What is left of digits once the zeros at their end are dropped: nothing else is lost, and a single
zero is left where all digits are zeros. Dropping the zeros of the digits of a number is dividing it
by ten as often as that leaves no rest.
-/

namespace DriverKit.Decimal

open DriverKit.Text

/-! ## Zeros at the end -/

theorem toDigits_mul_ten_pow {number : Nat} (pos : 0 < number) :
    ∀ zeros : Nat, Nat.toDigits 10 (number * 10 ^ zeros)
      = Nat.toDigits 10 number ++ List.replicate zeros '0'
  | 0 => by simp
  | zeros + 1 => by
      have shorter : 0 < number * 10 ^ zeros := Nat.mul_pos pos (Nat.pow_pos (by decide))
      have zero : Nat.toDigits 10 0 = ['0'] := rfl
      rw [List.replicate_succ', ← List.append_assoc, ← toDigits_mul_ten_pow pos zeros, ← zero,
        Nat.toDigits_append_toDigits (by decide) shorter (by decide)]
      congr 1
      ring

theorem dropZeros_append_replicate (digits : List Char) (zeros : Nat) :
    dropZeros (digits ++ List.replicate zeros '0') = dropZeros digits := by
  have same : (digits ++ List.replicate zeros '0').reverse.dropWhile (· == '0')
      = digits.reverse.dropWhile (· == '0') := by
    rw [List.reverse_append, List.reverse_replicate]
    exact List.dropWhile_append_of_pos (by simp)
  rw [dropZeros, dropZeros, same]

/-- Digits among which there is another one than zero. -/
def HasNonzero (digits : List Char) : Prop := ∃ c ∈ digits, c ≠ '0'

theorem plainNumber_replicate_zero (count : Nat) : plainNumber (List.replicate count '0') = 0 := by
  induction count with
  | zero => rfl
  | succ count inductionHypothesis => exact inductionHypothesis

theorem hasNonzero_toDigits {number : Nat} (pos : 0 < number) :
    HasNonzero (Nat.toDigits 10 number) := by
  by_contra noOther
  have allZero : ∀ c ∈ Nat.toDigits 10 number, c = '0' := fun c member => by
    by_contra other
    exact noOther ⟨c, member, other⟩
  have isZero := plainNumber_toDigits number
  rw [List.eq_replicate_of_mem allZero, plainNumber_replicate_zero] at isZero
  omega

theorem dropWhile_ne_nil_of_hasNonzero {digits : List Char} (nonzero : HasNonzero digits) :
    digits.reverse.dropWhile (· == '0') ≠ [] := by
  obtain ⟨c, member, other⟩ := nonzero
  intro empty
  have allZero := List.dropWhile_eq_nil_iff.mp empty
  exact other (by simpa using allZero c (List.mem_reverse.mpr member))

theorem dropZeros_of_hasNonzero {digits : List Char} (nonzero : HasNonzero digits) :
    dropZeros digits = (digits.reverse.dropWhile (· == '0')).reverse := by
  unfold dropZeros
  split
  · rename_i empty
    exact absurd (List.reverse_eq_nil_iff.mp empty) (dropWhile_ne_nil_of_hasNonzero nonzero)
  · rfl

theorem dropZeros_of_not_hasNonzero {digits : List Char} (onlyZeros : ¬HasNonzero digits) :
    dropZeros digits = ['0'] := by
  have empty : digits.reverse.dropWhile (· == '0') = [] := by
    rw [List.dropWhile_eq_nil_iff]
    intro c member
    by_contra other
    exact onlyZeros ⟨c, List.mem_reverse.mp member, by simpa using other⟩
  rw [dropZeros, empty]
  rfl

theorem dropZeros_ne_nil (digits : List Char) : dropZeros digits ≠ [] := by
  unfold dropZeros
  split
  · exact List.cons_ne_nil _ _
  · assumption

theorem exists_dropZeros_append {digits : List Char} (nonzero : HasNonzero digits) :
    ∃ zeros, digits = dropZeros digits ++ List.replicate zeros '0' := by
  have dropped : ∀ c ∈ (digits.reverse.takeWhile (· == '0')).reverse, c = '0' := by
    intro c member
    simpa using List.mem_takeWhile_imp (List.mem_reverse.mp member)
  refine ⟨(digits.reverse.takeWhile (· == '0')).reverse.length, ?_⟩
  rw [← List.eq_replicate_of_mem dropped, dropZeros_of_hasNonzero nonzero, ← List.reverse_append,
    List.takeWhile_append_dropWhile, List.reverse_reverse]

theorem dropZeros_append (front : List Char) {back : List Char} (nonzero : HasNonzero back) :
    dropZeros (front ++ back) = front ++ dropZeros back := by
  have allNonzero : HasNonzero (front ++ back) := by
    obtain ⟨c, member, other⟩ := nonzero
    exact ⟨c, List.mem_append_right front member, other⟩
  rw [dropZeros_of_hasNonzero allNonzero, dropZeros_of_hasNonzero nonzero, List.reverse_append,
    List.dropWhile_append, if_neg, List.reverse_append, List.reverse_reverse]
  rw [List.isEmpty_iff]
  exact dropWhile_ne_nil_of_hasNonzero nonzero

/-! ## Digits that end in another one -/

/-- Digits whose last one is another one than zero. -/
def EndsInNonzero (digits : List Char) : Prop := ∃ front c, digits = front ++ [c] ∧ c ≠ '0'

theorem EndsInNonzero.append (front : List Char) {back : List Char} (ends : EndsInNonzero back) :
    EndsInNonzero (front ++ back) := by
  obtain ⟨inner, c, rfl, other⟩ := ends
  exact ⟨front ++ inner, c, (List.append_assoc front inner [c]).symm, other⟩

theorem EndsInNonzero.drop {digits : List Char} (ends : EndsInNonzero digits) {count : Nat}
    (isLeft : digits.drop count ≠ []) : EndsInNonzero (digits.drop count) := by
  obtain ⟨front, c, rfl, other⟩ := ends
  have fits : count ≤ front.length := by
    by_contra beyond
    refine isLeft (List.drop_of_length_le ?_)
    rw [List.length_append, List.length_singleton]
    omega
  exact ⟨front.drop count, c, List.drop_append_of_le_length fits, other⟩

theorem EndsInNonzero.dropZeros_eq {digits : List Char} (ends : EndsInNonzero digits) :
    dropZeros digits = digits := by
  obtain ⟨front, c, rfl, other⟩ := ends
  have single : dropZeros [c] = [c] := by
    rw [dropZeros_of_hasNonzero ⟨c, List.mem_singleton_self c, other⟩]
    simp [other]
  rw [dropZeros_append front ⟨c, List.mem_singleton_self c, other⟩, single]

theorem eq_zero_or_endsInNonzero (digits : List Char) :
    dropZeros digits = ['0'] ∨ EndsInNonzero (dropZeros digits) := by
  by_cases nonzero : HasNonzero digits
  · have kept := dropWhile_ne_nil_of_hasNonzero nonzero
    rw [dropZeros_of_hasNonzero nonzero]
    cases dropped : digits.reverse.dropWhile (· == '0') with
    | nil => exact absurd dropped kept
    | cons c rest =>
        have other := List.head_dropWhile_not (· == '0') kept
        simp only [dropped, List.head_cons, beq_eq_false_iff_ne] at other
        exact Or.inr ⟨rest.reverse, c, List.reverse_cons, other⟩
  · exact Or.inl (dropZeros_of_not_hasNonzero nonzero)

theorem endsInNonzero_toDigits {number : Nat} (other : number % 10 ≠ 0) :
    EndsInNonzero (Nat.toDigits 10 number) := by
  have small : ∀ digit < 10, digit ≠ 0 → Nat.digitChar digit ≠ '0' := by decide
  rw [Nat.toDigits_eq_if (by decide)]
  split
  · rename_i single
    exact ⟨[], number.digitChar, rfl, small number single (by omega)⟩
  · exact ⟨_, (number % 10).digitChar, rfl, small (number % 10) (Nat.mod_lt _ (by decide)) other⟩

theorem isNumeral_of_forall {digits : List Char} (nonempty : digits ≠ [])
    (plain : ∀ c ∈ digits, isPlainDigit c = true) : isNumeral digits = true := by
  simp only [isNumeral, Bool.and_eq_true, Bool.not_eq_true', List.isEmpty_eq_false_iff,
    List.all_eq_true]
  exact ⟨nonempty, plain⟩

theorem isNumeral_dropZeros {digits : List Char} (numeral : isNumeral digits = true) :
    isNumeral (dropZeros digits) = true := by
  by_cases nonzero : HasNonzero digits
  · refine isNumeral_of_forall (dropZeros_ne_nil digits) fun c member => ?_
    rw [dropZeros_of_hasNonzero nonzero, List.mem_reverse] at member
    have inDigits := List.mem_reverse.mp ((List.dropWhile_sublist _).subset member)
    exact isPlainDigit_of_isNumeral numeral c inDigits
  · rw [dropZeros_of_not_hasNonzero nonzero]
    rfl

theorem plainNumber_mod_ten {digits : List Char} (numeral : isNumeral digits = true)
    (ends : EndsInNonzero digits) : plainNumber digits % 10 ≠ 0 := by
  obtain ⟨front, c, rfl, other⟩ := ends
  have digit := isPlainDigit_of_isNumeral numeral c (List.mem_append_right front List.mem_cons_self)
  have bounds := isPlainDigit_iff.mp digit
  have notZero : c.toNat ≠ 48 := fun same => other (Char.toNat_inj.mp same)
  have last : plainNumber (front ++ [c]) = 10 * plainNumber front + plainDigitValue c := by
    rw [plainNumber, List.foldl_append]
    rfl
  rw [last, plainDigitValue_eq]
  omega

/-! ## Numbers without zeros at their end -/

/-- A number without the zeros at the end of its digits. -/
def withoutLastZeros (number : Nat) : Nat :=
  if 0 < number ∧ number % 10 = 0 then withoutLastZeros (number / 10) else number
termination_by number
decreasing_by omega

theorem withoutLastZeros_le (number : Nat) : withoutLastZeros number ≤ number := by
  induction number using withoutLastZeros.induct with
  | case1 number ends inductionHypothesis =>
      rw [withoutLastZeros, if_pos ends]
      omega
  | case2 number plain => rw [withoutLastZeros, if_neg plain]

theorem withoutLastZeros_eq_self_iff {number : Nat} :
    withoutLastZeros number = number ↔ number = 0 ∨ number % 10 ≠ 0 := by
  rw [withoutLastZeros]
  split
  · rename_i ends
    have := withoutLastZeros_le (number / 10)
    omega
  · omega

theorem dropZeros_toDigits (number : Nat) :
    dropZeros (Nat.toDigits 10 number) = Nat.toDigits 10 (withoutLastZeros number) := by
  induction number using withoutLastZeros.induct with
  | case1 number ends inductionHypothesis =>
      have split : number = number / 10 * 10 ^ 1 := by omega
      rw [withoutLastZeros, if_pos ends, ← inductionHypothesis, split,
        toDigits_mul_ten_pow (by omega), dropZeros_append_replicate, ← split]
  | case2 number plain =>
      rw [withoutLastZeros, if_neg plain]
      rcases Nat.eq_zero_or_pos number with rfl | pos
      · rfl
      · exact (endsInNonzero_toDigits fun zero => plain ⟨pos, zero⟩).dropZeros_eq

end DriverKit.Decimal
