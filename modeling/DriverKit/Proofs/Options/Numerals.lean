import DriverKit.Proofs.Driver.Numeral
import DriverKit.Proofs.Options.Acceptance
import DriverKit.Proofs.Options.FlatFile
import DriverKit.Proofs.Yaml.Numeral

/-!
# Versions that are written as numbers

A framework version that stands in an options file without marks around it is a real number, and the
option is the text of that number. Up to fifteen digits this is the version as it was written, but
without zeros at its end. Files of plain lines are such files, whatever the version is.
-/

namespace DriverKit

open DriverKit.Text
open DriverKit.Decimal (Binary64 withoutLastZeros withoutLastZeros_le withoutLastZeros_eq_self_iff)

/-! ## Plain versions -/

theorem FrameworkVersion.toList_text_natCast (major minor : Nat) :
    (⟨major, minor⟩ : FrameworkVersion).text.toList
      = Nat.toDigits 10 major ++ '.' :: Nat.toDigits 10 minor := by
  rw [toList_text, writeInteger_natCast, writeInteger_natCast, Nat.toList_repr, Nat.toList_repr]

/-- A version without marks around it is the number nearest to its decimal. -/
theorem FrameworkVersion.readPlain_text (major minor : Nat) :
    Yaml.readPlain (⟨major, minor⟩ : FrameworkVersion).text
      = .ok (.real (Binary64.ofPointed major minor)) :=
  Yaml.readPlain_of_pointed (isNumeral_toDigits major) (isNumeral_toDigits minor)
    (toList_text_natCast major minor)

theorem FrameworkVersion.isWord_text (major minor : Nat) :
    Yaml.isWord (⟨major, minor⟩ : FrameworkVersion).text.toList = true := by
  have ofDigit : ∀ {c : Char} {number : Nat}, c ∈ Nat.toDigits 10 number → c.isAlphanum = true := by
    intro c number member
    have digit := Nat.isDigit_of_mem_toDigits (by decide) (by decide) member
    simp [Char.isAlphanum, digit]
  have inMinor : (Nat.toDigits 10 minor).all Yaml.isWordCharacter = true :=
    List.all_eq_true.mpr fun _ member => Yaml.isWordCharacter_of_isAlphanum (ofDigit member)
  rw [toList_text_natCast]
  cases digits : Nat.toDigits 10 major with
  | nil => exact absurd digits Nat.toDigits_ne_nil
  | cons c rest =>
      have inMajor : ∀ d ∈ c :: rest, d.isAlphanum = true :=
        fun d member => ofDigit (digits ▸ member)
      obtain ⟨first, others⟩ := List.forall_mem_cons.mp inMajor
      have inRest : rest.all Yaml.isWordCharacter = true :=
        List.all_eq_true.mpr fun d member => Yaml.isWordCharacter_of_isAlphanum (others d member)
      have point : Yaml.isWordCharacter '.' = true := rfl
      simp only [List.cons_append, Yaml.isWord, first, List.all_append, inRest, List.all_cons,
        point, inMinor, Bool.and_self]

/-- The number nearest to a version of at most fifteen digits is written as the version without
zeros at its end. -/
theorem FrameworkVersion.read_text_ofPointed {major minor : Nat}
    (few : (Nat.toDigits 10 major).length + (Nat.toDigits 10 minor).length ≤ 15) :
    read (Binary64.ofPointed major minor).text = .ok ⟨major, withoutLastZeros minor⟩ := by
  have sameText : (Binary64.ofPointed major minor).text
      = (⟨major, withoutLastZeros minor⟩ : FrameworkVersion).text := by
    rw [Binary64.text_ofPointed few, ← toList_text_natCast, String.ofList_toList]
  have short : ∀ number : Nat, (Nat.toDigits 10 number).length ≤ 15 → number < 10 ^ digitLimit := by
    intro number fits
    have small := (Nat.length_toDigits_le_iff (by decide) (by decide)).mp fits
    exact lt_of_lt_of_le small (Nat.pow_le_pow_right (by decide) (by decide))
  have majorShort := short major (by omega)
  have minorShort := short minor (by omega)
  rw [sameText]
  exact read_text ⟨major, withoutLastZeros minor, rfl, majorShort,
    lt_of_le_of_lt (withoutLastZeros_le minor) minorShort⟩

namespace Options

/-- The setting for the version of a class. The bare kernel model has none. -/
def Setting.ofVersion? : DriverClass → Option Setting
  | .kmdf => some .kmdfVersion
  | .umdf => some .umdfVersion
  | .wdm => none

/-- A section has a version for a setting that stands there without marks around it. -/
def WritesPlain (setting : Setting) (version : FrameworkVersion) (fields : Fields) : Prop :=
  ∃ value, Yaml.readPlain version.text = .ok value ∧
    Datum.field? fields setting.name = some (.scalar value)

variable {environment : Environment} {fields : Fields} {setting : Setting}
  {framework : DriverClass}

/-- A line with a version is one with an option. -/
theorem givesOption_version (setting : Setting) (major minor : Nat) :
    GivesOption ⟨setting.name, (⟨major, minor⟩ : FrameworkVersion).text⟩ where
  isName := ⟨setting, rfl⟩
  valueWord := FrameworkVersion.isWord_text major minor
  hasValue := ⟨.real (Binary64.ofPointed major minor),
    ⟨FrameworkVersion.readPlain_text major minor, fun isNan =>
      Binary64.ofDecimal_ne_nan _ _ _ (Scalar.real.inj isNan)⟩, rfl⟩

theorem winner?_of_field? (isVersion : Setting.ofVersion? framework = some setting)
    (unset : setting.fromVariable? environment = none) {number : Binary64}
    (written : Datum.field? fields setting.name = some (.scalar (.real number))) :
    setting.winner? environment fields = some (.scalar (.real number)) := by
  have fromSection : setting.fromSection? fields = some (.scalar (.real number)) := by
    rw [Setting.fromSection?, written]
    simp [Option.filter, Datum.isNull]
  cases framework with
  | kmdf =>
      cases isVersion
      simp only [Setting.winner?, unset, fromSection, Option.none_or]
  | umdf =>
      cases isVersion
      simp only [Setting.winner?, unset, fromSection, Option.none_or]
  | wdm => cases isVersion

theorem version_eq_value (isVersion : Setting.ofVersion? framework = some setting)
    (options : Options) : options.version framework = options.value setting := by
  cases framework with
  | kmdf => cases isVersion; rfl
  | umdf => cases isVersion; rfl
  | wdm => cases isVersion

/-! ## The version that is used -/

/-- A version without marks around it becomes the text of the nearest number. What is read from this
text is never a version that ends in a zero after another digit. Up to fifteen digits it is the
version as it was written, without zeros at its end, and the driver is one of this version. A file
of plain lines of which the last one for the version gives it so is a section with such a version,
if what reads documents reads plain lines. -/
theorem load_of_writesPlain (isVersion : Setting.ofVersion? framework = some setting)
    (unset : setting.fromVariable? environment = none) (loader : Yaml.Loader) (disk : Disk)
    (named : Option Path) (major minor : Nat) :
    (∀ fields, IsSection loader disk named fields → WritesPlain setting ⟨major, minor⟩ fields →
      AreWritable (Setting.winner? environment fields) →
        ∃ options text, (load loader disk environment named).outcome = .ok options ∧
          options.version framework = .text text ∧
          text = (Binary64.ofPointed major minor).text ∧
          (FrameworkVersion.read text = .ok ⟨major, minor⟩ → minor = 0 ∨ minor % 10 ≠ 0) ∧
          ((Nat.toDigits 10 major).length + (Nat.toDigits 10 minor).length ≤ 15 →
            (FrameworkVersion.read text = .ok ⟨major, minor⟩ ↔ minor = 0 ∨ minor % 10 ≠ 0) ∧
            FrameworkVersion.read text = .ok ⟨major, withoutLastZeros minor⟩ ∧
            (major = framework.frameworkMajor → options.readClass = .ok framework →
              options.NoForeign framework →
                ∃ driver, options.driverConfig = .ok driver ∧ driver.driverClass = framework ∧
                  driver.framework? = some ⟨major, withoutLastZeros minor⟩))) ∧
      (loader.ReadsFlat → ∀ front back lines,
        lines = front ++ ⟨setting.name, (⟨major, minor⟩ : FrameworkVersion).text⟩ :: back →
        (∀ line ∈ front ++ back, GivesOption line) → (∀ line ∈ back, line.key ≠ setting.name) →
        disk.read (named.getD usualFile) = .ok (String.ofList (Yaml.flatText lines)).toUTF8 →
          IsSection loader disk named (flatFields lines) ∧
            WritesPlain setting ⟨major, minor⟩ (flatFields lines) ∧
            AreWritable (Setting.winner? environment (flatFields lines))) := by
  constructor
  · intro fields isSection written writable
    obtain ⟨value, isNumber, inSection⟩ := written
    cases (FrameworkVersion.readPlain_text major minor).symm.trans isNumber
    have wins := winner?_of_field? isVersion unset inSection
    have given : (ofValues (settled (Setting.winner? environment fields))).version framework
        = .text (Binary64.ofPointed major minor).text := by
      have notLayout : setting ≠ .layout := by
        rintro rfl
        cases framework <;> cases isVersion
      rw [version_eq_value isVersion, value_ofValues, settled, wins]
      exact if_neg notLayout
    refine ⟨_, _, (outcome_load_of_isSection isSection).trans (ofWinners_of_areWritable writable),
      given, rfl, FrameworkVersion.minor_of_read_text, fun few => ?_⟩
    have read := FrameworkVersion.read_text_ofPointed few
    refine ⟨⟨FrameworkVersion.minor_of_read_text, fun ends => ?_⟩, read,
      fun ofClass classRead noForeign => ?_⟩
    · rw [read, withoutLastZeros_eq_self_iff.mpr ends]
    · have uses : framework ≠ .wdm := by
        rintro rfl
        cases isVersion
      refine (exists_driverConfig_iff_found uses).mpr ⟨classRead, noForeign, ?_, ofClass⟩
      rw [given]
      exact (FrameworkVersion.ofDatum_text _).trans read
  · rintro readsFlat front back lines rfl others later kept
    have version := givesOption_version setting major minor
    have gives := List.forall_mem_append.mpr
      ⟨fun line member => others line (List.mem_append_left back member),
        List.forall_mem_cons.mpr
          ⟨version, fun line member => others line (List.mem_append_right front member)⟩⟩
    have nonempty :
        front ++ ⟨setting.name, (⟨major, minor⟩ : FrameworkVersion).text⟩ :: back ≠ [] := by
      simp
    obtain ⟨value, reads, _⟩ := version.hasValue
    exact ⟨isSection_of_flatText gives readsFlat nonempty kept, ⟨value, reads.isRead,
      field?_flatFields reads later⟩, areWritable_flatFields gives environment⟩

/-- A version that ends in a one, and one that ends in a zero. -/
theorem load_of_writesPlain_last_zero :
    let loader := Yaml.Loader.ofLevels 8
    let first := "kmdf_version: 1.31\n"
    let second := "driver_class: UMDF\numdf_version: 2.10\n"
    let disk : Disk :=
      { Disk.empty with
        entries :=
          [(⟨["wdk.yaml"]⟩, .file first.toUTF8),
            (⟨["own.yaml"]⟩, .file second.toUTF8)] }
    let named := some (Path.ofText "own.yaml")
    (∃ options driver, (load loader disk [] none).outcome = .ok options ∧
        options.driverConfig = .ok driver ∧ driver.framework? = some ⟨1, 31⟩) ∧
      ∃ options driver text, (load loader disk [] named).outcome = .ok options ∧
        options.version .umdf = .text text ∧ FrameworkVersion.read text ≠ .ok ⟨2, 10⟩ ∧
        options.driverConfig = .ok driver ∧ driver.framework? = some ⟨2, 1⟩ := by
  intro loader first second disk named
  let firstLine : Yaml.Line := ⟨"kmdf_version", (⟨1, 31⟩ : FrameworkVersion).text⟩
  let secondLine : Yaml.Line := ⟨"umdf_version", (⟨2, 10⟩ : FrameworkVersion).text⟩
  let classLine : Yaml.Line := ⟨"driver_class", "UMDF"⟩
  have classWord : Yaml.ReadsWord "UMDF" (.text "UMDF") :=
    ⟨eq_ok_of_toOption (by decide +kernel), nofun⟩
  have givesClass : GivesOption classLine :=
    ⟨⟨.driverClass, rfl⟩, by decide, .text "UMDF", classWord, rfl⟩
  have firstText : first = String.ofList (Yaml.flatText [firstLine]) := by decide +kernel
  have secondText : second = String.ofList (Yaml.flatText [classLine, secondLine]) := by
    decide +kernel
  have firstKept : disk.read usualFile
      = .ok (String.ofList (Yaml.flatText [firstLine])).toUTF8 := firstText ▸ rfl
  have secondKept : disk.read (Path.ofText "own.yaml")
      = .ok (String.ofList (Yaml.flatText [classLine, secondLine])).toUTF8 := secondText ▸ rfl
  have firstVersion : Setting.ofVersion? .kmdf = some .kmdfVersion := rfl
  have secondVersion : Setting.ofVersion? .umdf = some .umdfVersion := rfl
  have firstUnset : Setting.fromVariable? [] .kmdfVersion = none := rfl
  have secondUnset : Setting.fromVariable? [] .umdfVersion = none := rfl
  obtain ⟨firstLoads, firstFlat⟩ :=
    load_of_writesPlain firstVersion firstUnset loader disk none 1 31
  obtain ⟨secondLoads, secondFlat⟩ :=
    load_of_writesPlain secondVersion secondUnset loader disk named 2 10
  have readsFlat : loader.ReadsFlat := Yaml.Loader.readsFlat_ofLevels
  obtain ⟨firstSection, firstPlain, firstWritable⟩ :=
    firstFlat readsFlat [] [] _ rfl nofun nofun firstKept
  obtain ⟨secondSection, secondPlain, secondWritable⟩ :=
    secondFlat readsFlat [classLine] [] _ rfl (List.forall_mem_singleton.mpr givesClass)
      nofun secondKept
  obtain ⟨options, text, loaded, given, _, _, exact⟩ :=
    firstLoads _ firstSection firstPlain firstWritable
  obtain ⟨others, otherText, otherLoaded, otherGiven, _, noZero, otherExact⟩ :=
    secondLoads _ secondSection secondPlain secondWritable
  have firstValue := value_of_ofWinners ((outcome_load_of_isSection firstSection).symm.trans loaded)
  have secondValue :=
    value_of_ofWinners ((outcome_load_of_isSection secondSection).symm.trans otherLoaded)
  have firstClass : options.readClass = .ok .kmdf := by
    rw [readClass, show options.driverClass = .text "KMDF" from firstValue .driverClass,
      Datum.write_text, ok_bind]
    exact eq_ok_of_toOption (by decide)
  have secondClass : others.readClass = .ok .umdf := by
    have classField : Datum.field? (flatFields ([] ++ classLine :: [secondLine])) classLine.key
        = some (.text "UMDF") :=
      field?_flatFields classWord (List.forall_mem_singleton.mpr (by decide))
    have wins : Setting.winner? [] (flatFields [classLine, secondLine]) .driverClass
        = some (.text "UMDF") := by
      show Setting.fromSection? (flatFields [classLine, secondLine]) .driverClass = _
      exact congrArg (Option.filter _) classField
    have isClass : others.driverClass = .text "UMDF" := by
      refine (secondValue .driverClass).trans ?_
      show settled (Setting.winner? [] (flatFields [classLine, secondLine])) .driverClass = _
      rw [settled, wins]
      rfl
    rw [readClass, isClass, Datum.write_text, ok_bind]
    exact eq_ok_of_toOption (by decide)
  have firstAlone : options.NoForeign .kmdf := by
    intro other different
    cases other with
    | kmdf => exact absurd rfl different
    | umdf => exact congrArg Datum.isNull (firstValue .umdfVersion)
    | wdm => rfl
  have secondAlone : others.NoForeign .umdf := by
    intro other different
    cases other with
    | kmdf => exact congrArg Datum.isNull (secondValue .kmdfVersion)
    | umdf => exact absurd rfl different
    | wdm => rfl
  have ofThirtyOne : withoutLastZeros 31 = 31 := withoutLastZeros_eq_self_iff.mpr (by decide)
  have ofTen : withoutLastZeros 10 = 1 := by
    rw [withoutLastZeros, if_pos (by decide)]
    exact withoutLastZeros_eq_self_iff.mpr (by decide)
  obtain ⟨driver, made, _, hasVersion⟩ := (exact (by decide)).2.2 rfl firstClass firstAlone
  obtain ⟨other, otherMade, _, otherVersion⟩ :=
    (otherExact (by decide)).2.2 rfl secondClass secondAlone
  rw [ofThirtyOne] at hasVersion
  rw [ofTen] at otherVersion
  refine ⟨⟨options, driver, loaded, made, hasVersion⟩, others, other, otherText, otherLoaded,
    otherGiven, fun read => ?_, otherMade, otherVersion⟩
  exact absurd (noZero read) (by decide)

end Options

end DriverKit
