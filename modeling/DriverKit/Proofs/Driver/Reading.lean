import DriverKit.Proofs.Driver
import DriverKit.Proofs.Driver.Refusal
import DriverKit.Proofs.KitVersion

/-!
# What classes and versions are read from

A class is read from its name alone. A framework version is read from two numerals with a dot
between them, and any other text is refused, with two exceptions: a numeral with too many digits,
and one next to which an information separator stands, have the form that is asked for but stand for
no number. They are neither read nor refused. A kit version can only fail in this way if one of its
numerals is too long.
-/

namespace DriverKit

open DriverKit.Text

theorem DriverClass.ofName?_eq_some_iff {name : String} {driverClass : DriverClass} :
    DriverClass.ofName? name = some driverClass ↔ name = driverClass.name := by
  constructor
  · intro found
    unfold DriverClass.ofName? at found
    split at found <;> cases found <;> rfl
  · rintro rfl
    cases driverClass <;> rfl

theorem DriverClass.read_eq_ok_iff {text : String} {driverClass : DriverClass} :
    DriverClass.read text = .ok driverClass ↔ upperPlain (trim text) = driverClass.name := by
  rw [← DriverClass.ofName?_eq_some_iff, DriverClass.read]
  cases DriverClass.ofName? (upperPlain (trim text)) with
  | none => simp
  | some found => simp

/-- An architecture is read, or refused as one that is not supported. -/
theorem Arch.read_cases (text : String) :
    (∃ arch, Arch.read text = .ok arch) ∨
      Arch.read text = .error (.invalidConfig (.unsupportedArch text) []) := by
  unfold Arch.read
  cases Arch.ofName? (lower (trim text)) with
  | none => exact Or.inr rfl
  | some arch => exact Or.inl ⟨arch, rfl⟩

namespace FrameworkVersion

/-! ## Framework versions -/

/-- A text has the form of a framework version: two parts with a dot between them, and each is a
numeral with or without blanks around it. -/
structure HasForm (text : String) (major minor : List Char) : Prop where
  parts : pieces '.' (trimmed text.toList) = [major, minor]
  isMajor : isNumeral (trimmed major) = true
  isMinor : isNumeral (trimmed minor) = true

/-- A text has the form of a framework version, but one of its numerals stands for no number. -/
def IsUnreadable (text : String) : Prop :=
  ∃ major minor, HasForm text major minor ∧ (Text.IsUnreadable major ∨ Text.IsUnreadable minor)

theorem readPart_cases {part : List Char} (numeral : isNumeral (trimmed part) = true) :
    (¬Text.IsUnreadable part ∧ readPart part = .ok (plainNumber (trimmed part) : Int)) ∨
      (Text.IsUnreadable part ∧ readPart part = .error (.misuse .malformedNumeral)) := by
  by_cases unreadable : Text.IsUnreadable part
  · refine Or.inr ⟨unreadable, ?_⟩
    rw [readPart, readInteger?_of_isUnreadable numeral unreadable]
  · refine Or.inl ⟨unreadable, ?_⟩
    rw [readPart, readInteger?_of_not_isUnreadable numeral unreadable]

theorem read_of_hasForm {text : String} {major minor : List Char}
    (form : HasForm text major minor) :
    read text = do return ⟨← readPart major, ← readPart minor⟩ := by
  rw [read, form.parts]
  simp only [ofParts, form.isMajor, form.isMinor, Bool.and_self, if_true]

theorem read_of_not_hasForm {text : String} (noForm : ∀ major minor, ¬HasForm text major minor) :
    read text = .error (.invalidConfig (.malformedFramework text) []) := by
  unfold read ofParts
  split
  · rename_i major minor parts
    split
    · rename_i numerals
      obtain ⟨isMajor, isMinor⟩ := Bool.and_eq_true_iff.mp numerals
      exact absurd ⟨parts, isMajor, isMinor⟩ (noForm major minor)
    · rfl
  · rfl

/-- What comes of a text that is to be a framework version. -/
theorem read_cases (text : String) :
    (¬IsUnreadable text ∧ ∃ version, read text = .ok version) ∨
      (¬IsUnreadable text ∧ read text = .error (.invalidConfig (.malformedFramework text) [])) ∨
        (IsUnreadable text ∧ read text = .error (.misuse .malformedNumeral)) := by
  by_cases hasForm : ∃ major minor, HasForm text major minor
  · obtain ⟨major, minor, form⟩ := hasForm
    have unreadable_iff : IsUnreadable text ↔
        Text.IsUnreadable major ∨ Text.IsUnreadable minor := by
      refine ⟨?_, fun unreadable => ⟨major, minor, form, unreadable⟩⟩
      rintro ⟨otherMajor, otherMinor, otherForm, unreadable⟩
      cases form.parts.symm.trans otherForm.parts
      exact unreadable
    rw [unreadable_iff, read_of_hasForm form]
    rcases readPart_cases form.isMajor with ⟨majorGood, majorRead⟩ | ⟨majorBad, majorFailed⟩
    · rcases readPart_cases form.isMinor with ⟨minorGood, minorRead⟩ | ⟨minorBad, minorFailed⟩
      · exact Or.inl ⟨not_or.mpr ⟨majorGood, minorGood⟩, _, by rw [majorRead, minorRead]; rfl⟩
      · exact Or.inr (Or.inr ⟨Or.inr minorBad, by rw [majorRead, minorFailed]; rfl⟩)
    · exact Or.inr (Or.inr ⟨Or.inl majorBad, by rw [majorFailed]; rfl⟩)
  · simp only [not_exists] at hasForm
    refine Or.inr (Or.inl ⟨?_, read_of_not_hasForm hasForm⟩)
    rintro ⟨major, minor, form, _⟩
    exact hasForm major minor form

/-- A text is read as a framework version or refused, just if it is not one whose numerals stand for
no number. -/
theorem read_or_refused_iff {text : String} :
    ((∃ version, read text = .ok version) ∨
        ∃ refusal supplied, read text = .error (.invalidConfig refusal supplied)) ↔
      ¬IsUnreadable text := by
  rcases read_cases text with
    ⟨readable, version, isOk⟩ | ⟨readable, refused⟩ | ⟨unreadable, failed⟩
  · exact ⟨fun _ => readable, fun _ => Or.inl ⟨version, isOk⟩⟩
  · exact ⟨fun _ => readable, fun _ => Or.inr ⟨_, _, refused⟩⟩
  · refine ⟨?_, fun readable => absurd unreadable readable⟩
    rintro (⟨version, isOk⟩ | ⟨refusal, supplied, refused⟩)
    · cases isOk.symm.trans failed
    · cases refused.symm.trans failed

theorem read_eq_misuse_iff {text : String} {cause : Misuse} :
    read text = .error (.misuse cause) ↔ cause = .malformedNumeral ∧ IsUnreadable text := by
  rcases read_cases text with
    ⟨readable, version, isOk⟩ | ⟨readable, refused⟩ | ⟨unreadable, failed⟩
  · simp [isOk, readable]
  · simp [refused, readable]
  · simp [failed, unreadable, eq_comm]

end FrameworkVersion

namespace KitVersion

/-! ## Kit versions -/

/-- A text has the form of a kit version, but one of its numerals is too long. -/
structure IsOverlong (text : String) : Prop where
  enough : 2 ≤ (runs text).length
  numerals : ∀ run ∈ runs text, isNumeral run = true
  long : ∃ run ∈ runs text, digitLimit < run.length

/-- What comes of a text that is to be a kit version. -/
theorem read_cases (text : String) :
    (¬IsOverlong text ∧ ∃ version, read text = .ok version) ∨
      (¬IsOverlong text ∧ ∃ kept, read text = .error (.invalidVersion kept)) ∨
        (IsOverlong text ∧ read text = .error (.misuse .overlongNumeral)) := by
  have named : pieces '.' (trimmed text.toList) = runs text := rfl
  simp only [read, named]
  split
  · rename_i shape
    simp only [Bool.and_eq_true, decide_eq_true_eq, List.all_eq_true] at shape
    obtain ⟨enough, numerals⟩ := shape
    cases found : (runs text).mapM readNumber? with
    | some fields =>
        obtain ⟨short, _⟩ := mapM_readNumber?_eq_some_iff.mp found
        refine Or.inl ⟨fun overlong => ?_, _, rfl⟩
        obtain ⟨run, member, long⟩ := overlong.long
        exact absurd (short run member) (Nat.not_le_of_lt long)
    | none =>
        refine Or.inr (Or.inr ⟨⟨enough, numerals, ?_⟩, rfl⟩)
        by_contra noLong
        have short : ∀ run ∈ runs text, run.length ≤ digitLimit := fun run member =>
          Nat.le_of_not_lt fun long => noLong ⟨run, member, long⟩
        cases found.symm.trans (mapM_readNumber?_eq_some_iff.mpr ⟨short, rfl⟩)
  · rename_i shape
    refine Or.inr (Or.inl ⟨fun overlong => shape ?_, _, rfl⟩)
    simp only [Bool.and_eq_true, decide_eq_true_eq, List.all_eq_true]
    exact ⟨overlong.enough, overlong.numerals⟩

end KitVersion

end DriverKit
