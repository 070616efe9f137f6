import DriverKit.Proofs.Decimal.Text
import DriverKit.Proofs.Driver.Reading

/-!
# Framework versions read from numbers

The text of a double precision number is read as a framework version just if it is two numerals with
a point between them. The number after the point does not end in a zero then, unless it is zero.
-/

namespace DriverKit.FrameworkVersion

open DriverKit.Text
open DriverKit.Decimal (Binary64 IsPointed)

theorem trimmed_of_isNumeral {digits : List Char} (numeral : isNumeral digits = true) :
    trimmed digits = digits :=
  trimmed_of_all fun c member =>
    isBlank_of_isPlainDigit (isPlainDigit_of_isNumeral numeral c member)

/-- Two numerals with a dot between them have the form of a framework version. -/
theorem hasForm_of_isNumeral {text : String} {major minor : List Char}
    (spelled : text.toList = major ++ '.' :: minor) (isMajor : isNumeral major = true)
    (isMinor : isNumeral minor = true) : HasForm text major minor := by
  have visible : ∀ c ∈ text.toList, isBlank c = false := by
    intro c member
    rw [spelled, List.mem_append, List.mem_cons] at member
    rcases member with inMajor | isDot | inMinor
    · exact isBlank_of_isPlainDigit (isPlainDigit_of_isNumeral isMajor c inMajor)
    · exact isDot ▸ rfl
    · exact isBlank_of_isPlainDigit (isPlainDigit_of_isNumeral isMinor c inMinor)
  refine ⟨?_, ?_, ?_⟩
  · rw [trimmed_of_all visible, spelled, pieces_append_mark (not_mem_of_isNumeral isMajor rfl),
      pieces_of_not_mem (not_mem_of_isNumeral isMinor rfl)]
  · rwa [trimmed_of_isNumeral isMajor]
  · rwa [trimmed_of_isNumeral isMinor]

theorem HasForm.unique {text : String} {major minor otherMajor otherMinor : List Char}
    (form : HasForm text major minor) (other : HasForm text otherMajor otherMinor) :
    major = otherMajor ∧ minor = otherMinor := by
  cases form.parts.symm.trans other.parts
  exact ⟨rfl, rfl⟩

/-- A text with the form of a framework version consists of digits, dots and blanks. -/
theorem HasForm.isPlainDigit_of_mem {text : String} {major minor : List Char}
    (form : HasForm text major minor) {c : Char} (member : c ∈ text.toList) :
    isBlank c = true ∨ c = '.' ∨ isPlainDigit c = true := by
  rcases isBlank_or_mem_trimmed member with blank | inTrimmed
  · exact Or.inl blank
  rw [← intercalate_pieces '.' (trimmed text.toList), form.parts] at inTrimmed
  rcases mem_intercalate inTrimmed with isDot | ⟨piece, isPiece, inPiece⟩
  · exact Or.inr (Or.inl isDot)
  have numeral : isNumeral (trimmed piece) = true := by
    simp only [List.mem_cons, List.not_mem_nil, or_false] at isPiece
    rcases isPiece with rfl | rfl
    · exact form.isMajor
    · exact form.isMinor
  rcases isBlank_or_mem_trimmed inPiece with blank | inNumeral
  · exact Or.inl blank
  · exact Or.inr (Or.inr (isPlainDigit_of_isNumeral numeral c inNumeral))

theorem exists_hasForm_of_read {text : String} {version : FrameworkVersion}
    (accepted : read text = .ok version) : ∃ major minor, HasForm text major minor := by
  by_contra noForm
  simp only [not_exists] at noForm
  cases (read_of_not_hasForm noForm).symm.trans accepted

/-- What is read from a text with the form of a framework version are its numerals. -/
theorem HasForm.eq_of_read {text : String} {major minor : List Char}
    (form : HasForm text major minor) {version : FrameworkVersion}
    (accepted : read text = .ok version) :
    version = ⟨plainNumber (trimmed major), plainNumber (trimmed minor)⟩ := by
  rw [read_of_hasForm form] at accepted
  obtain ⟨majorNumber, majorRead, afterMajor⟩ := bind_eq_ok_iff.mp accepted
  obtain ⟨minorNumber, minorRead, made⟩ := bind_eq_ok_iff.mp afterMajor
  cases made
  rcases readPart_cases form.isMajor with ⟨_, majorOk⟩ | ⟨_, failed⟩
  · rcases readPart_cases form.isMinor with ⟨_, minorOk⟩ | ⟨_, failed⟩
    · cases majorOk.symm.trans majorRead
      cases minorOk.symm.trans minorRead
      rfl
    · cases failed.symm.trans minorRead
  · cases failed.symm.trans majorRead

/-- A framework version that is read from the text of a number does not end in a zero, unless it
ends in a zero alone. -/
theorem minor_of_read_text {number : Binary64} {major minor : Nat}
    (accepted : read number.text = .ok ⟨major, minor⟩) : minor = 0 ∨ minor % 10 ≠ 0 := by
  obtain ⟨majorPart, minorPart, form⟩ := exists_hasForm_of_read accepted
  rcases number.text_cases with ⟨c, member, isMark⟩ | ⟨front, back, spelled, isFront, isBack, ends⟩
  · have foreign : ∀ c ∈ ['-', 'e', 'i', 'n'],
        ¬(isBlank c = true ∨ c = '.' ∨ isPlainDigit c = true) := by
      simp [isBlank, isPlainDigit]
    exact absurd (form.isPlainDigit_of_mem member) (foreign c isMark)
  · obtain ⟨rfl, rfl⟩ := form.unique (hasForm_of_isNumeral spelled isFront isBack)
    have same := form.eq_of_read accepted
    rw [trimmed_of_isNumeral isBack] at same
    have sameMinor : (minor : Int) = plainNumber minorPart := congrArg FrameworkVersion.minor same
    rw [Int.ofNat_inj.mp sameMinor]
    exact ends

end DriverKit.FrameworkVersion
