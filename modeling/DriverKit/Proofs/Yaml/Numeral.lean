import DriverKit.Proofs.Text.Numeral
import DriverKit.Yaml.Scalar
import Mathlib.Data.List.TakeDrop
import Mathlib.Data.List.TakeWhile

/-!
# Plain texts that are numbers

Two numerals with a point between them, written without marks or a tag, are a real number: the
double precision number nearest to the decimal that they spell.
-/

namespace DriverKit.Yaml

open DriverKit.Text
open DriverKit.Decimal (Binary64)

/-- The value of a plain text without a tag. -/
def readPlain (text : String) : Except Fault Scalar := (Tag.ofPlain text).readText text

/-! ## Digits and a point -/

/-- The characters before a point and the rest from it on. -/
theorem span_pointed {front : List Char} (frontNumeral : isNumeral front = true)
    (back : List Char) {test : Char → Bool} (onDigits : ∀ c, isPlainDigit c = true → test c = true)
    (onPoint : test '.' = false) :
    (front ++ '.' :: back).span test = (front, '.' :: back) := by
  have plain := isPlainDigit_of_isNumeral frontNumeral
  rw [List.span_eq_takeWhile_dropWhile,
    List.takeWhile_append_of_pos fun c member => onDigits c (plain c member),
    List.dropWhile_append_of_pos fun c member => onDigits c (plain c member),
    List.takeWhile_cons_of_neg (by simp [onPoint]), List.dropWhile_cons_of_neg (by simp [onPoint]),
    List.append_nil]

section

variable {front back : List Char} (frontNumeral : isNumeral front = true)
  (backNumeral : isNumeral back = true)

include frontNumeral backNumeral

theorem isPlainDigit_of_mem_pointed {c : Char} (member : c ∈ front ++ '.' :: back) :
    c = '.' ∨ isPlainDigit c = true := by
  rw [List.mem_append, List.mem_cons] at member
  rcases member with inFront | isPoint | inBack
  · exact Or.inr (isPlainDigit_of_isNumeral frontNumeral c inFront)
  · exact Or.inl isPoint
  · exact Or.inr (isPlainDigit_of_isNumeral backNumeral c inBack)

theorem not_mem_pointed {c : Char} (noPoint : c ≠ '.') (noDigit : isPlainDigit c = false) :
    c ∉ front ++ '.' :: back := by
  intro member
  rcases isPlainDigit_of_mem_pointed frontNumeral backNumeral member with isPoint | digit
  · exact noPoint isPoint
  · exact Bool.false_ne_true (noDigit.symm.trans digit)

theorem withoutLastBreak_pointed :
    Tag.withoutLastBreak (front ++ '.' :: back) = front ++ '.' :: back := by
  unfold Tag.withoutLastBreak
  refine if_neg fun isBreak => ?_
  have last : '\n' ∈ front ++ '.' :: back := List.mem_of_getLast? (beq_iff_eq.mp isBreak)
  exact not_mem_pointed frontNumeral backNumeral (by decide) (by decide) last

theorem unsigned_pointed : Tag.unsigned (front ++ '.' :: back) = front ++ '.' :: back := by
  have noMinus : '-' ∉ front ++ '.' :: back :=
    not_mem_pointed frontNumeral backNumeral (by decide) (by decide)
  have noPlus : '+' ∉ front ++ '.' :: back :=
    not_mem_pointed frontNumeral backNumeral (by decide) (by decide)
  unfold Tag.unsigned
  split
  · rename_i starts
    exact absurd (starts ▸ List.mem_cons_self) noMinus
  · rename_i starts
    exact absurd (starts ▸ List.mem_cons_self) noPlus
  · rfl

theorem isReal_pointed : Tag.isReal (front ++ '.' :: back) = true := by
  have split : (front ++ '.' :: back).span (· != '.') = (front, '.' :: back) :=
    span_pointed frontNumeral back (fun c digit => by simpa using ne_of_isPlainDigit digit rfl) rfl
  have wholeDigits : Tag.isDigits front = true := by
    have plain := isPlainDigit_of_isNumeral frontNumeral
    cases front with
    | nil => exact absurd rfl (ne_nil_of_isNumeral frontNumeral)
    | cons c rest =>
        obtain ⟨first, others⟩ := List.forall_mem_cons.mp plain
        simp only [Tag.isDigits, first, Bool.true_and, List.all_eq_true]
        exact fun d member => by simp [Tag.isDigitOrMark, others d member]
  have allDigits : back.dropWhile Tag.isDigitOrMark = [] := by
    rw [List.dropWhile_eq_nil_iff]
    intro c member
    simp [Tag.isDigitOrMark, isPlainDigit_of_isNumeral backNumeral c member]
  unfold Tag.isReal
  simp only [unsigned_pointed frontNumeral backNumeral, split, wholeDigits, allDigits,
    Tag.isExponent, Bool.and_self, Bool.true_or]

theorem ofPlain_of_pointed {text : String} (spelled : text.toList = front ++ '.' :: back) :
    Tag.ofPlain text = .real := by
  have noWord : ∀ word ∈ Tag.truthWords, '.' ∉ word.toList := by decide
  have notTrue : Tag.truthWords.contains text = false := by
    rw [← Bool.not_eq_true, List.contains_iff_mem]
    intro isWord
    exact noWord text isWord (spelled ▸ List.mem_append_right front List.mem_cons_self)
  have sameWord : String.ofList text.toList = text := String.ofList_toList
  unfold Tag.ofPlain
  have kept : Tag.withoutLastBreak text.toList = text.toList :=
    spelled ▸ withoutLastBreak_pointed frontNumeral backNumeral
  simp only [kept, sameWord, notTrue, Bool.false_eq_true, if_false]
  rw [spelled, isReal_pointed frontNumeral backNumeral, if_pos rfl]

end

/-! ## Reading the number -/

/-- Digits and points have no letter case. -/
theorem lower_pointed {text : String}
    (each : ∀ c ∈ text.toList, c = '.' ∨ isPlainDigit c = true) : lower text = text := by
  have ofCharacter : ∀ c, c = '.' ∨ isPlainDigit c = true →
      (c == '\u03A3') = false ∧ (c == '\u0130') = false ∧ lowerCharacter c = c := by
    have ofDigit : ∀ value < 10, (Nat.digitChar value == '\u03A3') = false ∧
        (Nat.digitChar value == '\u0130') = false ∧
          lowerCharacter (Nat.digitChar value) = Nat.digitChar value := by decide
    rintro c (rfl | digit)
    · decide
    · rw [← digitChar_plainDigitValue digit]
      exact ofDigit (plainDigitValue c) (plainDigitValue_lt digit)
  have ofList : ∀ (characters : List Char) (afterCased : Bool),
      (∀ c ∈ characters, c = '.' ∨ isPlainDigit c = true) →
        lowerAfter afterCased characters = characters := by
    intro characters
    induction characters with
    | nil => exact fun _ _ => rfl
    | cons c rest inductionHypothesis =>
        intro afterCased each
        obtain ⟨here, later⟩ := List.forall_mem_cons.mp each
        obtain ⟨noSigma, noDotted, same⟩ := ofCharacter c here
        rw [lowerAfter, inductionHypothesis _ later, lowerWithin, noSigma, noDotted, same]
        rfl
  rw [lower, ofList text.toList false each, String.ofList_toList]

section

variable {front back : List Char} (frontNumeral : isNumeral front = true)
  (backNumeral : isNumeral back = true)

include frontNumeral backNumeral

theorem lower_ofList_pointed :
    lower (String.ofList (front ++ '.' :: back)) = String.ofList (front ++ '.' :: back) := by
  refine lower_pointed fun c member => ?_
  rw [String.toList_ofList] at member
  exact isPlainDigit_of_mem_pointed frontNumeral backNumeral member

theorem splitSign_pointed : splitSign (front ++ '.' :: back) = (false, front ++ '.' :: back) :=
  splitSign_of_not_mem (not_mem_pointed frontNumeral backNumeral (by decide) (by decide))
    (not_mem_pointed frontNumeral backNumeral (by decide) (by decide))

/-- Two numerals with a point between them are read as the number nearest to their decimal. -/
theorem read?_pointed :
    Binary64.read? (front ++ '.' :: back)
      = some (Binary64.ofDecimal false (plainNumber (front ++ back)) (-(back.length : Int))) := by
  have isDigit_of_plain : ∀ c, isPlainDigit c = true → isDigit c = true := by
    intro c digit
    rw [isDigit, digitValue?_of_isPlainDigit digit]
    rfl
  have kept : unpadded (front ++ '.' :: back) = front ++ '.' :: back := by
    refine unpadded_of_all_not fun c member => ?_
    rcases isPlainDigit_of_mem_pointed frontNumeral backNumeral member with rfl | digit
    · rfl
    · simp [isPadding, isBlank_of_isPlainDigit digit]
  have backPlain := isPlainDigit_of_isNumeral backNumeral
  have split := span_pointed frontNumeral back isDigit_of_plain (by decide)
  have backSplit : back.span isDigit = (back, []) := by
    rw [List.span_eq_takeWhile_dropWhile, List.takeWhile_eq_self_iff.mpr,
      List.dropWhile_eq_nil_iff.mpr]
    · exact fun c member => isDigit_of_plain c (backPlain c member)
    · exact fun c member => isDigit_of_plain c (backPlain c member)
  have notWord : ∀ word : String, '.' ∉ word.toList →
      (String.ofList (front ++ '.' :: back) == word) = false := by
    intro word noPoint
    rw [beq_eq_false_iff_ne]
    rintro rfl
    rw [String.toList_ofList] at noPoint
    exact noPoint (List.mem_append_right front List.mem_cons_self)
  have values : (front ++ back).mapM digitValue? = some ((front ++ back).map plainDigitValue) :=
    mapM_eq_some_map fun c member => digitValue?_of_isPlainDigit <|
      (List.mem_append.mp member).elim (isPlainDigit_of_isNumeral frontNumeral c) (backPlain c)
  have frontSome : front.isEmpty = false := by simpa using ne_nil_of_isNumeral frontNumeral
  unfold Binary64.read? Binary64.readUnsigned
  simp only [kept, splitSign_pointed frontNumeral backNumeral,
    lower_ofList_pointed frontNumeral backNumeral, notWord "inf" (by decide),
    notWord "infinity" (by decide), notWord "nan" (by decide), Bool.or_self, Bool.false_eq_true,
    if_false, split, backSplit, frontSome, Bool.false_and, Binary64.readExponent, values,
    Option.bind_eq_bind, Option.bind_some, Int.zero_sub, List.foldl_map, Option.some.injEq]
  rfl

/-- Two numerals with a point between them are a real number. -/
theorem readPlain_of_pointed {text : String} (spelled : text.toList = front ++ '.' :: back) :
    readPlain text = .ok (.real
      (Binary64.ofDecimal false (plainNumber (front ++ back)) (-(back.length : Int)))) := by
  have noMark : ∀ mark, mark ≠ '.' → isPlainDigit mark = false → mark ∉ front ++ '.' :: back :=
    fun mark noPoint noDigit => not_mem_pointed frontNumeral backNumeral noPoint noDigit
  have kept : Tag.numeral text = front ++ '.' :: back := by
    rw [Tag.numeral, spelled, List.filter_eq_self]
    intro c member
    have notMark : c ≠ '_' := fun same => noMark '_' (by decide) (by decide) (same ▸ member)
    simpa using notMark
  have notWord : ∀ word : List Char, (∃ c ∈ word, c ≠ '.' ∧ isPlainDigit c = false) →
      (front ++ '.' :: back == word) = false := by
    rintro word ⟨c, member, noPoint, noDigit⟩
    rw [beq_eq_false_iff_ne]
    rintro rfl
    exact noMark c noPoint noDigit member
  have noColon : (front ++ '.' :: back).contains ':' = false := by
    rw [← Bool.not_eq_true, List.contains_iff_mem]
    exact noMark ':' (by decide) (by decide)
  have nonempty : (front ++ '.' :: back).isEmpty = false := by simp
  have sized : Tag.readSize (front ++ '.' :: back) = .ok
      (Binary64.ofDecimal false (plainNumber (front ++ back)) (-(back.length : Int))) := by
    rw [Tag.readSize, notWord ".inf".toList ⟨'i', by decide, by decide, by decide⟩,
      if_neg (by simp), noColon, if_neg (by simp), Tag.realIn,
      read?_pointed frontNumeral backNumeral]
  rw [readPlain, ofPlain_of_pointed frontNumeral backNumeral spelled]
  show Tag.readReal text = _
  unfold Tag.readReal
  simp only [kept, lower_ofList_pointed frontNumeral backNumeral, String.toList_ofList, nonempty,
    splitSign_pointed frontNumeral backNumeral,
    notWord ".nan".toList ⟨'n', by decide, by decide, by decide⟩, Bool.false_eq_true,
    if_false, sized]
  rfl

end

end DriverKit.Yaml
