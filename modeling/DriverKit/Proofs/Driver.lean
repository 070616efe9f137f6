import DriverKit.Driver.Reading
import DriverKit.Proofs.Text.Numeral

/-!
# Driver configurations and their parts

The names of classes and architectures are read as what they name. A framework version whose
numbers are natural and within the limit on digits is read again as it was written, and these are
the only framework versions that are ever read; so a driver configuration that was read can be kept
as the name of its class and the text of its framework version.

A class and a framework version make a configuration just if the class takes the version, in
whatever form the two are given.
-/

namespace DriverKit

open DriverKit.Text

theorem DriverClass.read_name (driverClass : DriverClass) :
    DriverClass.read driverClass.name = .ok driverClass := by
  cases driverClass with
  | kmdf => rfl
  | umdf => rfl
  | wdm => rfl

theorem Arch.read_name (arch : Arch) : Arch.read arch.name = .ok arch := by
  cases arch with
  | x86 => rfl
  | x64 => rfl
  | arm => rfl
  | arm64 => rfl

theorem Arch.name_inj {left right : Arch} : left.name = right.name ↔ left = right := by
  constructor
  · intro same
    have leftRead := Arch.read_name left
    rw [same, Arch.read_name right] at leftRead
    exact (Except.ok.inj leftRead).symm
  · exact congrArg name

namespace FrameworkVersion

/-! ## Framework versions -/

/-- A framework version that can be written and read again. -/
def IsReadable (version : FrameworkVersion) : Prop :=
  ∃ major minor : Nat,
    version = ⟨major, minor⟩ ∧ major < 10 ^ digitLimit ∧ minor < 10 ^ digitLimit

theorem toList_text (number : FrameworkVersion) :
    number.text.toList
      = (writeInteger number.major).toList ++ '.' :: (writeInteger number.minor).toList := by
  simp [text]

theorem text_inj {left right : FrameworkVersion} : left.text = right.text ↔ left = right := by
  have parts : ∀ number : FrameworkVersion,
      pieces '.' number.text.toList
        = [(writeInteger number.major).toList, (writeInteger number.minor).toList] := by
    intro number
    rw [toList_text, pieces_append_mark (dot_not_mem_writeInteger number.major),
      pieces_of_not_mem (dot_not_mem_writeInteger number.minor)]
  constructor
  · intro same
    have sameParts := parts left
    rw [same, parts right] at sameParts
    injection sameParts with sameMajor rest
    injection rest with sameMinor _
    rw [String.toList_inj, writeInteger_inj] at sameMajor sameMinor
    cases left
    cases right
    simp only at sameMajor sameMinor
    rw [sameMajor, sameMinor]
  · exact congrArg text

theorem isPlainDigit_of_mem_text {number : FrameworkVersion} {c : Char}
    (member : c ∈ number.text.toList) : c = '.' ∨ c = '-' ∨ isPlainDigit c = true := by
  rw [toList_text, List.mem_append, List.mem_cons] at member
  rcases member with inMajor | isDot | inMinor
  · exact Or.inr (isPlainDigit_of_mem_writeInteger inMajor)
  · exact Or.inl isDot
  · exact Or.inr (isPlainDigit_of_mem_writeInteger inMinor)

theorem not_mem_text {c : Char} (other : c ≠ '.' ∧ c ≠ '-' ∧ isPlainDigit c = false)
    (number : FrameworkVersion) : c ∉ number.text.toList := by
  intro member
  rcases isPlainDigit_of_mem_text member with isDot | isMinus | isDigit
  · exact other.1 isDot
  · exact other.2.1 isMinus
  · exact Bool.false_ne_true (other.2.2.symm.trans isDigit)

theorem isStep_text (number : FrameworkVersion) : isStep number.text.toList = true := by
  have noSlash : '/' ∉ number.text.toList := not_mem_text (by decide) number
  have longer : number.text.toList.length ≠ 0 ∧ number.text.toList.length ≠ 1 := by
    have major := List.length_pos_iff.mpr (writeInteger_ne_nil number.major)
    rw [toList_text, List.length_append, List.length_cons]
    omega
  have nonempty : number.text.toList ≠ [] := fun same => longer.1 (congrArg List.length same)
  have noDot : number.text.toList ≠ ['.'] := fun same => longer.2 (congrArg List.length same)
  simp [isStep, nonempty, noDot, noSlash]

theorem readPart_of_isNumeral {digits : List Char} (numeral : isNumeral digits = true)
    (short : digits.length ≤ digitLimit) : readPart digits = .ok (plainNumber digits : Int) := by
  simp [readPart, readInteger?_of_isNumeral numeral short]

theorem ofDatum_text (text : String) : ofDatum (.text text) = read text := by
  rw [ofDatum, Datum.write_text]
  rfl

theorem read_text {version : FrameworkVersion} (readable : version.IsReadable) :
    read version.text = .ok version := by
  obtain ⟨major, minor, same, majorSmall, minorSmall⟩ := readable
  have majorNumeral := isNumeral_toDigits major
  have minorNumeral := isNumeral_toDigits minor
  have plainMajor := isPlainDigit_of_isNumeral majorNumeral
  have plainMinor := isPlainDigit_of_isNumeral minorNumeral
  have spelled :
      version.text.toList = Nat.toDigits 10 major ++ '.' :: Nat.toDigits 10 minor := by
    simp [same, text, writeInteger_natCast]
  have visible : ∀ c ∈ version.text.toList, isBlank c = false := by
    intro c member
    rw [spelled, List.mem_append, List.mem_cons] at member
    rcases member with inMajor | isDot | inMinor
    · exact isBlank_of_isPlainDigit (plainMajor c inMajor)
    · exact isDot ▸ rfl
    · exact isBlank_of_isPlainDigit (plainMinor c inMinor)
  have parts :
      pieces '.' (trimmed version.text.toList)
        = [Nat.toDigits 10 major, Nat.toDigits 10 minor] := by
    rw [trimmed_of_all visible, spelled,
      pieces_append_mark (not_mem_of_isNumeral majorNumeral rfl),
      pieces_of_not_mem (not_mem_of_isNumeral minorNumeral rfl)]
  have majorTrimmed :=
    trimmed_of_all fun c member => isBlank_of_isPlainDigit (plainMajor c member)
  have minorTrimmed :=
    trimmed_of_all fun c member => isBlank_of_isPlainDigit (plainMinor c member)
  have majorRead := readPart_of_isNumeral majorNumeral (length_toDigits_le majorSmall)
  have minorRead := readPart_of_isNumeral minorNumeral (length_toDigits_le minorSmall)
  rw [read, parts]
  simp [ofParts, majorTrimmed, minorTrimmed, majorNumeral, minorNumeral, majorRead, minorRead,
    bind, Except.bind, pure, Except.pure, same]

theorem exists_of_readPart {part : List Char} {number : Int}
    (numeral : isNumeral (trimmed part) = true) (accepted : readPart part = .ok number) :
    ∃ magnitude : Nat, number = magnitude ∧ magnitude < 10 ^ digitLimit := by
  have unsigned : '-' ∉ part := by
    intro member
    rcases isBlank_or_mem_trimmed member with blank | kept
    · exact absurd blank (by decide)
    · exact not_mem_of_isNumeral numeral rfl kept
  unfold readPart at accepted
  split at accepted
  · rename_i found
    cases accepted
    exact exists_of_readInteger? unsigned found
  · cases accepted

theorem isReadable_of_ofParts {shown : String} {parts : List (List Char)}
    {version : FrameworkVersion} (accepted : ofParts shown parts = .ok version) :
    version.IsReadable := by
  unfold ofParts at accepted
  split at accepted
  · rename_i major minor
    split at accepted
    · rename_i numerals
      simp only [Bool.and_eq_true] at numerals
      obtain ⟨majorNumber, majorRead, later⟩ := bind_eq_ok_iff.mp accepted
      obtain ⟨minorNumber, minorRead, result⟩ := bind_eq_ok_iff.mp later
      cases result
      obtain ⟨majorMagnitude, majorSame, majorSmall⟩ := exists_of_readPart numerals.1 majorRead
      obtain ⟨minorMagnitude, minorSame, minorSmall⟩ := exists_of_readPart numerals.2 minorRead
      exact ⟨majorMagnitude, minorMagnitude, by rw [majorSame, minorSame], majorSmall, minorSmall⟩
    · cases accepted
  · cases accepted

/-- Every framework version that is read can be written and read again. -/
theorem isReadable_of_ofDatum {value : Datum} {version : FrameworkVersion}
    (accepted : ofDatum value = .ok version) : version.IsReadable := by
  have ofTwo :
      ∀ {major minor : Datum},
        (do
          let parts := [(← major.write).toList, (← minor.write).toList]
          ofParts (← value.write) parts) = Except.ok version →
        version.IsReadable := by
    intro major minor found
    obtain ⟨majorText, _, afterMajor⟩ := bind_eq_ok_iff.mp found
    obtain ⟨minorText, _, afterMinor⟩ := bind_eq_ok_iff.mp afterMajor
    obtain ⟨shown, _, result⟩ := bind_eq_ok_iff.mp afterMinor
    exact isReadable_of_ofParts result
  unfold ofDatum at accepted
  split at accepted
  · exact ofTwo accepted
  · exact ofTwo accepted
  · obtain ⟨text, _, result⟩ := bind_eq_ok_iff.mp accepted
    exact isReadable_of_ofParts result

/-- A framework version that is given as itself or as a value, where the absent one gives none. -/
def ofGiven : FrameworkVersion ⊕ Datum → Except Failure (Option FrameworkVersion)
  | .inl number => .ok (some number)
  | .inr value => if value.isNull then .ok none else some <$> ofDatum value

end FrameworkVersion

/-- What a class takes as its framework version: the bare kernel model takes none, and a framework
takes one of its own major number. -/
structure DriverClass.Takes (driverClass : DriverClass) (version : Option FrameworkVersion) :
    Prop where
  absent_iff : version = none ↔ driverClass = .wdm
  major_kmdf : driverClass = .kmdf → ∀ number, version = some number → number.major = 1
  major_umdf : driverClass = .umdf → ∀ number, version = some number → number.major = 2

/-- A class that is given as itself or as a value. -/
def DriverClass.ofGiven : DriverClass ⊕ Datum → Except Failure DriverClass
  | .inl driverClass => .ok driverClass
  | .inr value => do DriverClass.read (← value.write)

namespace DriverConfig

/-! ## Driver configurations -/

/-- A driver configuration whose framework version, if it has one, can be written and read again. -/
def IsReadable (config : DriverConfig) : Prop :=
  ∀ version, config.framework? = some version → version.IsReadable

/-- The framework version of a configuration as a value, the absent one if it has none. -/
def frameworkDatum (config : DriverConfig) : Datum :=
  match config.framework? with
  | some version => .text version.text
  | none => .null

/-- A framework version of a class with the usual minor number can be written and read again. -/
theorem isReadable_of_defaultMinor {config : DriverConfig} {version : FrameworkVersion}
    (found : config.framework? = some version) (usual : version.minor = defaultMinor) :
    version.IsReadable := by
  have large : (33 : Nat) < 10 ^ digitLimit :=
    calc
      33 < 10 ^ 2 := by decide
      _ ≤ 10 ^ digitLimit := Nat.pow_le_pow_right (by decide) (by decide)
  cases config with
  | kmdf minor =>
      cases found
      exact ⟨1, 33, congrArg (FrameworkVersion.mk 1) usual, by omega, large⟩
  | umdf minor =>
      cases found
      exact ⟨2, 33, congrArg (FrameworkVersion.mk 2) usual, by omega, large⟩
  | wdm => cases found

/-- A configuration made of a class and a framework version has both of them. -/
theorem driverClass_framework?_of_ofParts {driverClass : DriverClass}
    {version : Option FrameworkVersion} {config : DriverConfig}
    (accepted : ofParts driverClass version = .ok config) :
    config.driverClass = driverClass ∧ config.framework? = version := by
  unfold ofParts at accepted
  split at accepted
  · cases accepted
    exact ⟨rfl, rfl⟩
  · cases accepted
  · cases accepted
  · rename_i number
    split at accepted
    · rename_i sameMajor
      cases accepted
      exact ⟨rfl, by rw [framework?, ← sameMajor]⟩
    · cases accepted
  · rename_i number
    split at accepted
    · rename_i sameMajor
      cases accepted
      exact ⟨rfl, by rw [framework?, ← sameMajor]⟩
    · cases accepted

theorem ofParts_driverClass_framework? (config : DriverConfig) :
    ofParts config.driverClass config.framework? = .ok config := by
  cases config with
  | kmdf minor => rfl
  | umdf minor => rfl
  | wdm => rfl

theorem eq_of_parts {left right : DriverConfig} (sameClass : left.driverClass = right.driverClass)
    (sameFramework : left.framework? = right.framework?) : left = right := by
  have made := ofParts_driverClass_framework? left
  rw [sameClass, sameFramework, ofParts_driverClass_framework? right] at made
  exact (Except.ok.inj made).symm

theorem takes_framework? (config : DriverConfig) : config.driverClass.Takes config.framework? := by
  cases config with
  | kmdf minor =>
      exact ⟨by simp [framework?, driverClass], fun _ number found => by cases found; rfl, nofun⟩
  | umdf minor =>
      exact ⟨by simp [framework?, driverClass], nofun, fun _ number found => by cases found; rfl⟩
  | wdm => exact ⟨by simp [framework?, driverClass], nofun, nofun⟩

theorem ofParts_eq_ok_iff {driverClass : DriverClass} {version : Option FrameworkVersion}
    {config : DriverConfig} :
    ofParts driverClass version = .ok config ↔
      config.driverClass = driverClass ∧ config.framework? = version := by
  constructor
  · exact driverClass_framework?_of_ofParts
  · rintro ⟨rfl, rfl⟩
    exact ofParts_driverClass_framework? config

/-- A class and a framework version make a configuration just if the class takes the version. -/
theorem exists_ofParts_iff_takes {driverClass : DriverClass} {version : Option FrameworkVersion} :
    (∃ config, ofParts driverClass version = .ok config) ↔ driverClass.Takes version := by
  constructor
  · rintro ⟨config, made⟩
    obtain ⟨rfl, rfl⟩ := ofParts_eq_ok_iff.mp made
    exact config.takes_framework?
  · intro takes
    cases version with
    | none =>
        cases takes.absent_iff.mp rfl
        exact ⟨.wdm, rfl⟩
    | some number =>
        obtain ⟨major, minor⟩ := number
        cases driverClass with
        | kmdf =>
            cases takes.major_kmdf rfl _ rfl
            exact ⟨.kmdf minor, rfl⟩
        | umdf =>
            cases takes.major_umdf rfl _ rfl
            exact ⟨.umdf minor, rfl⟩
        | wdm => cases takes.absent_iff.mpr rfl

/-- A framework takes a version just if it has its own major number. -/
theorem takes_some_iff {framework : DriverClass} (uses : framework ≠ .wdm)
    {number : FrameworkVersion} :
    framework.Takes (some number) ↔ number.major = framework.frameworkMajor := by
  cases framework with
  | wdm => exact absurd rfl uses
  | kmdf =>
      refine ⟨fun takes => takes.major_kmdf rfl number rfl, fun sameMajor => ⟨by simp, ?_, nofun⟩⟩
      rintro - _ ⟨⟩
      exact sameMajor
  | umdf =>
      refine ⟨fun takes => takes.major_umdf rfl number rfl, fun sameMajor => ⟨by simp, nofun, ?_⟩⟩
      rintro - _ ⟨⟩
      exact sameMajor

/-- A configuration is read again from the name of its class and the text of its framework
version. -/
theorem ofData_name_frameworkDatum {config : DriverConfig} (readable : config.IsReadable) :
    ofData (.text config.driverClass.name) config.frameworkDatum = .ok config := by
  have again := ofParts_driverClass_framework? config
  unfold ofData
  rw [Datum.write_text, ok_bind, DriverClass.read_name, ok_bind]
  cases found : config.framework? with
  | none =>
      rw [found] at again
      simpa [frameworkDatum, found, Datum.isNull] using again
  | some version =>
      rw [found] at again
      have versionRead : FrameworkVersion.ofDatum (.text version.text) = .ok version := by
        rw [FrameworkVersion.ofDatum_text]
        exact FrameworkVersion.read_text (readable version found)
      simp only [frameworkDatum, found, Datum.isNull, Bool.false_eq_true, if_false]
      exact bind_eq_ok_iff.mpr ⟨version, versionRead, again⟩

/-! ## Configurations from what is given -/

/-- The configuration of a class and a framework version, each of them given as itself or as a
value. -/
def ofGiven (driverClass : DriverClass ⊕ Datum) (version : FrameworkVersion ⊕ Datum) :
    Except Failure DriverConfig := do
  ofParts (← DriverClass.ofGiven driverClass) (← FrameworkVersion.ofGiven version)

theorem ofGiven_inr (driverClass version : Datum) :
    ofGiven (.inr driverClass) (.inr version) = ofData driverClass version := by
  unfold ofGiven ofData DriverClass.ofGiven FrameworkVersion.ofGiven
  rw [bind_assoc]
  refine bind_congr fun text => bind_congr fun named => ?_
  cases absent : version.isNull with
  | true => simp only [absent, if_true, ok_bind]
  | false => simp only [absent, Bool.false_eq_true, if_false, bind_map_left]

theorem ofGiven_eq_ok_iff {driverClass : DriverClass ⊕ Datum} {version : FrameworkVersion ⊕ Datum}
    {config : DriverConfig} :
    ofGiven driverClass version = .ok config ↔
      DriverClass.ofGiven driverClass = .ok config.driverClass ∧
        FrameworkVersion.ofGiven version = .ok config.framework? := by
  unfold ofGiven
  simp only [bind_eq_ok_iff, ofParts_eq_ok_iff]
  constructor
  · rintro ⟨_, classGiven, _, versionGiven, rfl, rfl⟩
    exact ⟨classGiven, versionGiven⟩
  · rintro ⟨classGiven, versionGiven⟩
    exact ⟨_, classGiven, _, versionGiven, rfl, rfl⟩

/-- Every driver configuration that is read can be written and read again. -/
theorem isReadable_of_ofData {driverClass version : Datum} {config : DriverConfig}
    (accepted : ofData driverClass version = .ok config) : config.IsReadable := by
  intro framework found
  obtain ⟨className, _, afterName⟩ := bind_eq_ok_iff.mp accepted
  obtain ⟨readClass, _, afterClass⟩ := bind_eq_ok_iff.mp afterName
  split at afterClass
  · have same := (driverClass_framework?_of_ofParts afterClass).2
    rw [found] at same
    cases same
  · obtain ⟨number, numberRead, made⟩ := bind_eq_ok_iff.mp afterClass
    have same := (driverClass_framework?_of_ofParts made).2
    rw [found] at same
    cases same
    exact FrameworkVersion.isReadable_of_ofDatum numberRead

end DriverConfig

end DriverKit
