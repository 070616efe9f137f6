import DriverKit.Proofs.Outcome
import DriverKit.Proofs.Text.Pieces
import DriverKit.Text.Numeral
import Mathlib.Algebra.Group.Nat.Defs

/-!
# Numerals and numbers

A number that is written and read again is the same number, and a numeral that is read and written
again is the numeral without its leading zeros. Both hold within the limit on digits, and only
numbers within it are ever read.
-/

namespace DriverKit.Text

/-! ## Plain digits -/

theorem isPlainDigit_iff {c : Char} : isPlainDigit c = true ↔ 48 ≤ c.toNat ∧ c.toNat ≤ 57 := by
  simp [isPlainDigit, Char.le_def, UInt32.le_iff_toNat_le]

theorem isPlainDigit_of_isDigit {c : Char} (digit : c.isDigit = true) :
    isPlainDigit c = true := by
  rw [Char.isDigit_iff_toNat] at digit
  exact isPlainDigit_iff.mpr digit

theorem isBlank_of_isPlainDigit {c : Char} (digit : isPlainDigit c = true) :
    isBlank c = false := by
  have bounds := isPlainDigit_iff.mp digit
  simp only [isBlank, Bool.or_eq_false_iff, Bool.and_eq_false_iff, decide_eq_false_iff_not,
    beq_eq_false_iff_ne]
  omega

theorem ne_of_isPlainDigit {c mark : Char} (digit : isPlainDigit c = true)
    (other : isPlainDigit mark = false) : c ≠ mark := by
  intro same
  rw [same, other] at digit
  exact absurd digit Bool.false_ne_true

theorem isPlainDigit_of_isNumeral {digits : List Char} (numeral : isNumeral digits = true) :
    ∀ c ∈ digits, isPlainDigit c = true := by
  simp only [isNumeral, Bool.and_eq_true] at numeral
  exact List.all_eq_true.mp numeral.2

theorem ne_nil_of_isNumeral {digits : List Char} (numeral : isNumeral digits = true) :
    digits ≠ [] := by
  intro empty
  simp [isNumeral, empty] at numeral

theorem not_mem_of_isNumeral {digits : List Char} {mark : Char} (numeral : isNumeral digits = true)
    (other : isPlainDigit mark = false) : mark ∉ digits := by
  intro member
  exact ne_of_isPlainDigit (isPlainDigit_of_isNumeral numeral mark member) other rfl

/-! ## Writing and reading -/

theorem plainNumber_eq_ofDigitChars (digits : List Char) :
    plainNumber digits = Nat.ofDigitChars 10 digits 0 := rfl

@[simp]
theorem plainNumber_toDigits (number : Nat) : plainNumber (Nat.toDigits 10 number) = number :=
  Nat.ofDigitChars_ten_toDigits

theorem isNumeral_toDigits (number : Nat) : isNumeral (Nat.toDigits 10 number) = true := by
  have digits : ∀ c ∈ Nat.toDigits 10 number, isPlainDigit c = true := by
    intro c member
    exact isPlainDigit_of_isDigit (Nat.isDigit_of_mem_toDigits (by decide) (by decide) member)
  simpa [isNumeral] using digits

theorem length_toDigits_le {number : Nat} (small : number < 10 ^ digitLimit) :
    (Nat.toDigits 10 number).length ≤ digitLimit :=
  (Nat.length_toDigits_le_iff (by decide) (by decide)).mpr small

theorem readNumber?_eq_some_iff {digits : List Char} {number : Nat} :
    readNumber? digits = some number ↔
      digits.length ≤ digitLimit ∧ plainNumber digits = number := by
  simp [readNumber?]

theorem mapM_readNumber?_eq_some_iff {list : List (List Char)} {numbers : List Nat} :
    list.mapM readNumber? = some numbers ↔
      (∀ digits ∈ list, digits.length ≤ digitLimit) ∧ list.map plainNumber = numbers := by
  simp only [mapM_eq_some_iff, readNumber?_eq_some_iff]
  rw [List.forall₂_and_left, ← List.forall₂_map_left_iff (R := Eq), List.forall₂_eq_eq_eq]

/-! ## Reading and writing -/

/-- A numeral without the zeros at its start, but with at least one digit. -/
def withoutLeadingZeros : List Char → List Char
  | '0' :: next :: rest => withoutLeadingZeros (next :: rest)
  | digits => digits

theorem plainDigitValue_eq (c : Char) : plainDigitValue c = c.toNat - 48 := rfl

theorem plainDigitValue_lt {c : Char} (digit : isPlainDigit c = true) :
    plainDigitValue c < 10 := by
  have bounds := isPlainDigit_iff.mp digit
  rw [plainDigitValue_eq]
  omega

theorem digitChar_plainDigitValue {c : Char} (digit : isPlainDigit c = true) :
    Nat.digitChar (plainDigitValue c) = c := by
  have bounds := isPlainDigit_iff.mp digit
  apply Char.toNat_inj.mp
  rw [Nat.toNat_digitChar_of_lt_ten (plainDigitValue_lt digit), plainDigitValue_eq]
  omega

theorem toDigits_plainDigitValue {c : Char} (digit : isPlainDigit c = true) :
    Nat.toDigits 10 (plainDigitValue c) = [c] := by
  rw [Nat.toDigits_of_lt_base (plainDigitValue_lt digit), digitChar_plainDigitValue digit]

/-- Digits after those of a positive number are the last digits of a larger one. -/
theorem toDigits_append_digits :
    ∀ {digits : List Char} {number : Nat},
      0 < number → (∀ c ∈ digits, isPlainDigit c = true) →
        Nat.toDigits 10 number ++ digits = Nat.toDigits 10 (Nat.ofDigitChars 10 digits number)
  | [], number, _, _ => by
      simp
  | c :: rest, number, positive, plain => by
      have digit := plain c List.mem_cons_self
      have extended :
          Nat.toDigits 10 number ++ [c] = Nat.toDigits 10 (10 * number + plainDigitValue c) := by
        rw [← Nat.toDigits_append_toDigits (by decide) positive (plainDigitValue_lt digit),
          toDigits_plainDigitValue digit]
      have nextPositive : 0 < 10 * number + plainDigitValue c := by omega
      have later :=
        toDigits_append_digits nextPositive
          (fun other member => plain other (List.mem_cons_of_mem c member))
      rw [Nat.ofDigitChars_cons]
      calc
        Nat.toDigits 10 number ++ c :: rest = (Nat.toDigits 10 number ++ [c]) ++ rest := by simp
        _ = Nat.toDigits 10 (10 * number + plainDigitValue c) ++ rest := by rw [extended]
        _ = _ := later

/-- A numeral that is read and written again loses the zeros at its start. -/
theorem toDigits_plainNumber :
    ∀ {digits : List Char}, isNumeral digits = true →
      Nat.toDigits 10 (plainNumber digits) = withoutLeadingZeros digits
  | [], numeral => by
      simp [isNumeral] at numeral
  | [c], numeral => by
      have digit := isPlainDigit_of_isNumeral numeral c List.mem_cons_self
      have value : plainNumber [c] = plainDigitValue c := by simp [plainNumber]
      rw [value, toDigits_plainDigitValue digit]
      simp [withoutLeadingZeros]
  | c :: next :: rest, numeral => by
      have plain := isPlainDigit_of_isNumeral numeral
      have laterPlain : ∀ other ∈ next :: rest, isPlainDigit other = true :=
        fun other member => plain other (List.mem_cons_of_mem c member)
      by_cases isZero : c = '0'
      · subst c
        have laterNumeral : isNumeral (next :: rest) = true := by
          simpa [isNumeral] using laterPlain
        have laterDigits := toDigits_plainNumber laterNumeral
        have sameNumber : plainNumber ('0' :: next :: rest) = plainNumber (next :: rest) := rfl
        rw [sameNumber, laterDigits, withoutLeadingZeros]
      · have digit := plain c List.mem_cons_self
        have positive : 0 < plainDigitValue c := by
          have bounds := isPlainDigit_iff.mp digit
          have different : c.toNat ≠ 48 := fun same => isZero (Char.toNat_inj.mp same)
          rw [plainDigitValue_eq]
          omega
        have number :
            plainNumber (c :: next :: rest)
              = Nat.ofDigitChars 10 (next :: rest) (plainDigitValue c) := by
          rw [plainNumber_eq_ofDigitChars, Nat.ofDigitChars_cons, Nat.mul_zero, Nat.zero_add]
          rfl
        rw [number, ← toDigits_append_digits positive laterPlain, toDigits_plainDigitValue digit]
        simp [withoutLeadingZeros, isZero]

theorem length_withoutLeadingZeros_le (digits : List Char) :
    (withoutLeadingZeros digits).length ≤ digits.length := by
  induction digits using withoutLeadingZeros.induct with
  | case1 next rest inductionHypothesis =>
      rw [withoutLeadingZeros]
      exact Nat.le_succ_of_le inductionHypothesis
  | case2 digits notZero => simp [withoutLeadingZeros]

theorem plainNumber_lt {digits : List Char} (numeral : isNumeral digits = true) :
    plainNumber digits < 10 ^ digits.length := by
  have positive : 0 < digits.length := List.length_pos_iff.mpr (ne_nil_of_isNumeral numeral)
  rw [← Nat.length_toDigits_le_iff (by decide) positive, toDigits_plainNumber numeral]
  exact length_withoutLeadingZeros_le digits

/-! ## Whole numbers with a sign -/

theorem writeInteger_natCast (number : Nat) : writeInteger (number : Int) = Nat.repr number := by
  have notNegative : ¬ (number : Int) < 0 := by omega
  rw [writeInteger, if_neg notNegative, Int.natAbs_natCast]

/-- A number is written in digits, with a minus if it is negative. -/
theorem isPlainDigit_of_mem_writeInteger {number : Int} {c : Char}
    (member : c ∈ (writeInteger number).toList) : c = '-' ∨ isPlainDigit c = true := by
  have inDigits : ∀ magnitude : Nat, c ∈ (Nat.repr magnitude).toList → isPlainDigit c = true := by
    intro magnitude inRepr
    rw [Nat.toList_repr] at inRepr
    exact isPlainDigit_of_isNumeral (isNumeral_toDigits magnitude) c inRepr
  unfold writeInteger at member
  split at member
  · rw [String.toList_append, List.mem_append] at member
    rcases member with isMinus | inRepr
    · exact Or.inl (List.mem_singleton.mp isMinus)
    · exact Or.inr (inDigits _ inRepr)
  · exact Or.inr (inDigits _ member)

theorem writeInteger_ne_nil (number : Int) : (writeInteger number).toList ≠ [] := by
  unfold writeInteger
  split
  · simp
  · rw [Nat.toList_repr]
    exact ne_nil_of_isNumeral (isNumeral_toDigits _)

theorem dot_not_mem_writeInteger (number : Int) : '.' ∉ (writeInteger number).toList := by
  intro member
  rcases isPlainDigit_of_mem_writeInteger member with isMinus | isDigit
  · exact absurd isMinus (by decide)
  · exact absurd isDigit (by decide)

theorem eq_of_repr_eq {left right : Nat} (same : Nat.repr left = Nat.repr right) :
    left = right := by
  have digits := congrArg String.toList same
  rw [Nat.toList_repr, Nat.toList_repr] at digits
  rw [← plainNumber_toDigits left, digits, plainNumber_toDigits]

theorem writeInteger_inj {left right : Int} :
    writeInteger left = writeInteger right ↔ left = right := by
  have noMinus : ∀ (number : Nat) (rest : String), "-" ++ rest ≠ Nat.repr number := by
    intro number rest same
    have minus : '-' ∈ (Nat.repr number).toList := by
      rw [← same]
      simp
    rw [Nat.toList_repr] at minus
    exact not_mem_of_isNumeral (isNumeral_toDigits number) rfl minus
  constructor
  · intro same
    unfold writeInteger at same
    by_cases leftNegative : left < 0
    · by_cases rightNegative : right < 0
      · rw [if_pos leftNegative, if_pos rightNegative, String.append_right_inj] at same
        have magnitudes := eq_of_repr_eq same
        omega
      · rw [if_pos leftNegative, if_neg rightNegative] at same
        exact absurd same (noMinus _ _)
    · by_cases rightNegative : right < 0
      · rw [if_neg leftNegative, if_pos rightNegative] at same
        exact absurd same.symm (noMinus _ _)
      · rw [if_neg leftNegative, if_neg rightNegative] at same
        have magnitudes := eq_of_repr_eq same
        omega
  · exact congrArg writeInteger

theorem digitValue?_of_isPlainDigit {c : Char} (digit : isPlainDigit c = true) :
    digitValue? c = some (plainDigitValue c) := by
  have bounds := isPlainDigit_iff.mp digit
  have first : (decide (0x30 ≤ c.toNat) && decide (c.toNat < 0x30 + 10)) = true := by
    simp only [Bool.and_eq_true, decide_eq_true_eq]
    omega
  simp only [digitValue?, digitZeros, List.find?_cons, first, Option.map_some, plainDigitValue_eq]

theorem digitIn?_of_isPlainDigit {c : Char} (digit : isPlainDigit c = true) :
    digitIn? 10 c = some (plainDigitValue c) := by
  simp [digitIn?, digitValue?_of_isPlainDigit digit, plainDigitValue_lt digit]

theorem mapM_digitIn? {digits : List Char} (plain : ∀ c ∈ digits, isPlainDigit c = true) :
    digits.mapM (digitIn? 10) = some (digits.map plainDigitValue) :=
  mapM_eq_some_map fun c member => digitIn?_of_isPlainDigit (plain c member)

theorem unpadded_of_all_not {characters : List Char}
    (kept : ∀ c ∈ characters, isPadding c = false) : unpadded characters = characters := by
  have reversed : ∀ c ∈ characters.reverse, isPadding c = false :=
    fun c member => kept c (List.mem_reverse.mp member)
  rw [unpadded, dropWhile_of_all_not kept, dropWhile_of_all_not reversed, List.reverse_reverse]

theorem unpadded_of_digits {digits : List Char} (plain : ∀ c ∈ digits, isPlainDigit c = true) :
    unpadded digits = digits :=
  unpadded_of_all_not fun c member => by
    simp [isPadding, isBlank_of_isPlainDigit (plain c member)]

theorem splitSign_of_not_mem {characters : List Char} (noMinus : '-' ∉ characters)
    (noPlus : '+' ∉ characters) : splitSign characters = (false, characters) := by
  cases characters with
  | nil => rfl
  | cons c rest =>
      have notMinus : c ≠ '-' := fun same => noMinus (same ▸ List.mem_cons_self)
      have notPlus : c ≠ '+' := fun same => noPlus (same ▸ List.mem_cons_self)
      simp [splitSign, notMinus, notPlus]

theorem dropBaseMark_ten (characters : List Char) : dropBaseMark 10 characters = characters := by
  unfold dropBaseMark
  split
  · simp [baseMark]
  · rfl

/-- A numeral within the limit is read as the number that its digits stand for. -/
theorem readInteger?_of_isNumeral {digits : List Char} (numeral : isNumeral digits = true)
    (short : digits.length ≤ digitLimit) :
    readInteger? 10 digits = some (plainNumber digits : Int) := by
  have plain := isPlainDigit_of_isNumeral numeral
  have noMinus : '-' ∉ digits := not_mem_of_isNumeral numeral rfl
  have noPlus : '+' ∉ digits := not_mem_of_isNumeral numeral rfl
  have nonempty : digits.isEmpty = false := by
    simpa using ne_nil_of_isNumeral numeral
  have withinLimit : ¬ digitLimit < digits.length := by omega
  simp [readInteger?, unpadded_of_digits plain, splitSign_of_not_mem noMinus noPlus,
    dropBaseMark_ten, nonempty, withinLimit, mapM_digitIn? plain, plainNumber, List.foldl_map]

/-! ## Blanks around numerals -/

/-- One of the four information separators: they are blanks, but they pad no numeral. -/
def isSeparator (c : Char) : Bool := 0x1C ≤ c.toNat && c.toNat ≤ 0x1F

theorem isPadding_eq (c : Char) : isPadding c = (isBlank c && !isSeparator c) := rfl

theorem unpadded_eq_trimmed {characters : List Char}
    (plain : ∀ c ∈ characters, isSeparator c = false) :
    unpadded characters = trimmed characters := by
  have sameTest : ∀ c ∈ characters, isPadding c = isBlank c := by
    intro c member
    simp [isPadding_eq, plain c member]
  have sameFront : characters.dropWhile isPadding = characters.dropWhile isBlank :=
    dropWhile_congr sameTest
  have sameBack : ∀ c ∈ (characters.dropWhile isBlank).reverse, isPadding c = isBlank c :=
    fun c member => sameTest c
      ((List.dropWhile_sublist isBlank).subset (List.mem_reverse.mp member))
  rw [unpadded, trimmed, trimEnd, sameFront, dropWhile_congr sameBack]

theorem readInteger?_of_overlong {digits : List Char} (numeral : isNumeral digits = true)
    (long : digitLimit < digits.length) : readInteger? 10 digits = none := by
  have plain := isPlainDigit_of_isNumeral numeral
  have noMinus : '-' ∉ digits := not_mem_of_isNumeral numeral rfl
  have noPlus : '+' ∉ digits := not_mem_of_isNumeral numeral rfl
  simp [readInteger?, unpadded_of_digits plain, splitSign_of_not_mem noMinus noPlus,
    dropBaseMark_ten, long]

theorem mem_splitSign {characters : List Char} {c : Char} (member : c ∈ characters)
    (noMinus : c ≠ '-') (noPlus : c ≠ '+') : c ∈ (splitSign characters).2 := by
  unfold splitSign
  split
  · exact (List.mem_cons.mp member).resolve_left noMinus
  · exact (List.mem_cons.mp member).resolve_left noPlus
  · exact member

/-- A character that is no digit and pads no numeral stands in none. -/
theorem readInteger?_of_foreign {characters : List Char} {c : Char} (member : c ∈ characters)
    (noPadding : isPadding c = false) (noDigit : digitIn? 10 c = none) (noMinus : c ≠ '-')
    (noPlus : c ≠ '+') : readInteger? 10 characters = none := by
  have inside : c ∈ unpadded characters :=
    (holds_or_mem_inner member).resolve_left (by simp [noPadding])
  have inDigits : c ∈ (splitSign (unpadded characters)).2 := mem_splitSign inside noMinus noPlus
  have unread : (splitSign (unpadded characters)).2.mapM (digitIn? 10) = none := by
    rw [Option.eq_none_iff_forall_ne_some]
    intro values mapped
    obtain ⟨value, _, digit⟩ := exists_of_forall₂ (mapM_eq_some_iff.mp mapped).flip inDigits
    cases noDigit.symm.trans digit
  simp only [readInteger?, dropBaseMark_ten, unread]
  split <;> rfl

theorem digitIn?_of_isSeparator {c : Char} (separator : isSeparator c = true) :
    digitIn? 10 c = none := by
  simp only [isSeparator, Bool.and_eq_true, decide_eq_true_eq] at separator
  have one : c = '\x1c' ∨ c = '\x1d' ∨ c = '\x1e' ∨ c = '\x1f' := by
    simp only [← Char.toNat_inj]
    show c.toNat = 28 ∨ c.toNat = 29 ∨ c.toNat = 30 ∨ c.toNat = 31
    omega
  rcases one with rfl | rfl | rfl | rfl <;> rfl

/-- Without separators the padding of a numeral is all of the blanks around it. -/
theorem readInteger?_eq_trimmed {characters : List Char}
    (numeral : isNumeral (trimmed characters) = true)
    (plain : ∀ c ∈ characters, ¬isSeparator c = true) :
    readInteger? 10 characters = readInteger? 10 (trimmed characters) := by
  rw [readInteger?, readInteger?,
    unpadded_eq_trimmed fun c member => Bool.eq_false_iff.mpr (plain c member),
    unpadded_of_digits (isPlainDigit_of_isNumeral numeral)]

/-- Digits with blanks around them stand for no number, if they are too many or if a separator is
among the blanks. -/
inductive IsUnreadable (characters : List Char) : Prop where
  | overlong (long : digitLimit < (trimmed characters).length)
  | separated {c : Char} (member : c ∈ characters) (separator : isSeparator c = true)

theorem readInteger?_of_isUnreadable {characters : List Char}
    (numeral : isNumeral (trimmed characters) = true) (unreadable : IsUnreadable characters) :
    readInteger? 10 characters = none := by
  by_cases separated : ∃ c ∈ characters, isSeparator c = true
  · obtain ⟨c, member, separator⟩ := separated
    have noPadding : isPadding c = false := by simp [isPadding_eq, separator]
    have noMinus : c ≠ '-' := fun same => absurd (same ▸ separator) (by decide)
    have noPlus : c ≠ '+' := fun same => absurd (same ▸ separator) (by decide)
    exact readInteger?_of_foreign member noPadding (digitIn?_of_isSeparator separator) noMinus
      noPlus
  · cases unreadable with
    | overlong long =>
        rw [readInteger?_eq_trimmed numeral fun c member separator =>
            separated ⟨c, member, separator⟩]
        exact readInteger?_of_overlong numeral long
    | separated member separator => exact absurd ⟨_, member, separator⟩ separated

/-- A numeral with blanks around it is read as the number that its digits stand for, unless it
stands for none. -/
theorem readInteger?_of_not_isUnreadable {characters : List Char}
    (numeral : isNumeral (trimmed characters) = true) (readable : ¬IsUnreadable characters) :
    readInteger? 10 characters = some (plainNumber (trimmed characters) : Int) := by
  rw [readInteger?_eq_trimmed numeral fun c member separator =>
      readable (.separated member separator)]
  exact readInteger?_of_isNumeral numeral (Nat.le_of_not_lt fun long => readable (.overlong long))

/-! ## Bounds -/

theorem foldl_values_lt {base : Nat} :
    ∀ {values : List Nat} {number bound : Nat},
      (∀ value ∈ values, value < base) → number < bound →
        values.foldl (fun number value => base * number + value) number
          < base ^ values.length * bound
  | [], number, bound, _, small => by
      simpa using small
  | value :: rest, number, bound, digits, small => by
      have first := digits value List.mem_cons_self
      have next : base * number + value < base * bound := by
        calc
          base * number + value < base * number + base := Nat.add_lt_add_left first _
          _ = base * (number + 1) := by rw [Nat.mul_add, Nat.mul_one]
          _ ≤ base * bound := Nat.mul_le_mul_left base small
      have restDigits : ∀ other ∈ rest, other < base :=
        fun other member => digits other (List.mem_cons_of_mem value member)
      have later := foldl_values_lt restDigits next
      rw [List.foldl_cons, List.length_cons, Nat.pow_succ, Nat.mul_assoc]
      exact later

theorem digitIn?_lt {base value : Nat} {c : Char} (found : digitIn? base c = some value) :
    value < base := by
  unfold digitIn? at found
  split at found
  · split at found
    · cases found
      assumption
    · cases found
  · cases found

theorem mem_of_mem_unpadded {characters : List Char} {c : Char} (member : c ∈ unpadded characters) :
    c ∈ characters := by
  have reversed := (List.dropWhile_sublist isPadding).subset (List.mem_reverse.mp member)
  exact (List.dropWhile_sublist isPadding).subset (List.mem_reverse.mp reversed)

/-- What is read from characters without a minus is a number within the limit. -/
theorem exists_of_readInteger? {characters : List Char} {number : Int}
    (unsigned : '-' ∉ characters) (found : readInteger? 10 characters = some number) :
    ∃ magnitude : Nat, number = magnitude ∧ magnitude < 10 ^ digitLimit := by
  have notNegative : (splitSign (unpadded characters)).1 = false := by
    unfold splitSign
    split
    · rename_i rest starts
      have member : '-' ∈ unpadded characters := starts ▸ List.mem_cons_self
      exact absurd (mem_of_mem_unpadded member) unsigned
    · rfl
    · rfl
  simp only [readInteger?, dropBaseMark_ten, notNegative] at found
  split at found
  · cases found
  · rename_i fits
    obtain ⟨values, mapped, result⟩ := Option.bind_eq_some_iff.mp found
    have each := mapM_eq_some_iff.mp mapped
    have short : values.length ≤ digitLimit := by
      have sameLength := each.length_eq
      simp at fits
      omega
    have small : ∀ value ∈ values, value < 10 := by
      intro value member
      obtain ⟨c, _, digit⟩ := exists_of_forall₂ each member
      exact digitIn?_lt digit
    refine ⟨_, (Option.some.inj result).symm, ?_⟩
    calc
      values.foldl (fun number value => 10 * number + value) 0 < 10 ^ values.length * 1 :=
        foldl_values_lt small Nat.one_pos
      _ = 10 ^ values.length := Nat.mul_one _
      _ ≤ 10 ^ digitLimit := Nat.pow_le_pow_right (by decide) short

end DriverKit.Text
