import DriverKit.Proofs.Driver.Reading
import DriverKit.Proofs.Options

/-!
# Which options make a driver configuration

Options make a driver configuration just if the class can be read, no version is set that the class
does not take, and the version that it takes can be read and goes with it. For options that are
texts this is said text by text. All other options are refused with what has been supplied.
-/

namespace DriverKit.Options

open DriverKit.Text

/-! ## Versions of other classes -/

/-- The version that the options say for a class. The bare kernel model has none. -/
def version (options : Options) : DriverClass → Datum
  | .kmdf => options.kmdfVersion
  | .umdf => options.umdfVersion
  | .wdm => .null

/-- No version is set that must not be set for a class: that of another class. -/
def NoForeign (options : Options) (driverClass : DriverClass) : Prop :=
  ∀ other, other ≠ driverClass → (options.version other).isNull = true

/-- The classes that have versions, with the names of the options for them. -/
def versioned : List (String × DriverClass) :=
  [("kmdf_version", .kmdf), ("umdf_version", .umdf)]

/-- Refuses the versions of other classes. -/
def refuseForeign (options : Options) (driverClass : DriverClass) : Except Failure Unit :=
  forM (versioned.filter (·.2 ≠ driverClass)) fun (name, other) =>
    options.refuseVersion name driverClass (options.version other)

theorem noForeign_iff {options : Options} {driverClass : DriverClass} :
    options.NoForeign driverClass ↔
      ∀ entry ∈ versioned.filter (·.2 ≠ driverClass), (options.version entry.2).isNull = true := by
  constructor
  · intro noForeign entry member
    exact noForeign entry.2 (of_decide_eq_true (List.mem_filter.mp member).2)
  · intro allNull other different
    cases other with
    | wdm => rfl
    | kmdf => exact allNull ("kmdf_version", .kmdf) (by simp [versioned, different])
    | umdf => exact allNull ("umdf_version", .umdf) (by simp [versioned, different])

theorem refuseForeign_cases (options : Options) (driverClass : DriverClass) :
    (options.NoForeign driverClass ∧ options.refuseForeign driverClass = .ok ()) ∨
      (¬options.NoForeign driverClass ∧ ∃ refusal,
        options.refuseForeign driverClass = .error (.invalidConfig refusal options.supplied)) := by
  rw [noForeign_iff, refuseForeign]
  induction versioned.filter (·.2 ≠ driverClass) with
  | nil => exact Or.inl ⟨nofun, rfl⟩
  | cons entry rest inductionHypothesis =>
      simp only [refuseVersion, List.forM_cons, List.forall_mem_cons] at inductionHypothesis ⊢
      cases (options.version entry.2).isNull with
      | true => simpa using inductionHypothesis
      | false => exact Or.inr ⟨fun allNull => Bool.noConfusion allNull.1, _, rfl⟩

/-- A driver configuration is made in three steps, whatever the class is. -/
theorem driverConfig_eq (options : Options) :
    options.driverConfig = (do
      let driverClass ← options.explain options.readClass
      options.refuseForeign driverClass
      options.explain (options.askedVersion driverClass >>= DriverConfig.ofParts driverClass)) := by
  refine bind_congr fun driverClass => ?_
  cases driverClass with
  | wdm =>
      have others : versioned.filter (·.2 ≠ .wdm)
          = [("kmdf_version", .kmdf), ("umdf_version", .umdf)] := by decide
      simp only [refuseForeign, others, List.forM_cons, List.forM_nil, bind_assoc, pure_bind,
        version]
      rfl
  | kmdf =>
      have others : versioned.filter (·.2 ≠ .kmdf) = [("umdf_version", .umdf)] := by decide
      simp only [refuseForeign, others, List.forM_cons, List.forM_nil, bind_assoc, pure_bind,
        version, askedVersion, bind_map_left]
  | umdf =>
      have others : versioned.filter (·.2 ≠ .umdf) = [("kmdf_version", .kmdf)] := by decide
      simp only [refuseForeign, others, List.forM_cons, List.forM_nil, bind_assoc, pure_bind,
        version, askedVersion, bind_map_left]

/-! ## Accepted options -/

theorem driverConfig_eq_ok_iff {options : Options} {driver : DriverConfig} :
    options.driverConfig = .ok driver ↔
      options.readClass = .ok driver.driverClass ∧ options.NoForeign driver.driverClass ∧
        options.askedVersion driver.driverClass = .ok driver.framework? := by
  have made_iff : ∀ driverClass : DriverClass,
      options.explain (options.askedVersion driverClass >>= DriverConfig.ofParts driverClass)
          = .ok driver ↔
        driver.driverClass = driverClass ∧
          options.askedVersion driverClass = .ok driver.framework? := by
    intro driverClass
    simp only [explain_eq_ok_iff, bind_eq_ok_iff, DriverConfig.ofParts_eq_ok_iff]
    constructor
    · rintro ⟨version, asked, rfl, rfl⟩
      exact ⟨rfl, asked⟩
    · rintro ⟨rfl, asked⟩
      exact ⟨_, asked, rfl, rfl⟩
  simp only [driverConfig_eq, bind_eq_ok_iff, explain_eq_ok_iff, made_iff]
  constructor
  · rintro ⟨driverClass, classRead, _, notRefused, rfl, asked⟩
    rcases options.refuseForeign_cases driver.driverClass with
      ⟨noForeign, _⟩ | ⟨_, refusal, refused⟩
    · exact ⟨classRead, noForeign, asked⟩
    · cases notRefused.symm.trans refused
  · rintro ⟨classRead, noForeign, asked⟩
    rcases options.refuseForeign_cases driver.driverClass with ⟨_, notRefused⟩ | ⟨foreign, _⟩
    · exact ⟨driver.driverClass, classRead, (), notRefused, rfl, asked⟩
    · exact absurd noForeign foreign

theorem askedVersion_eq (options : Options) {framework : DriverClass} (uses : framework ≠ .wdm) :
    options.askedVersion framework
      = some <$> frameworkVersion framework (options.version framework) := by
  cases framework with
  | wdm => exact absurd rfl uses
  | kmdf => rfl
  | umdf => rfl

/-- Options make a driver of a framework just if they name its class, no version is set for another
class, and the version that is found for this one goes with it. -/
theorem exists_driverConfig_iff_found {options : Options} {framework : DriverClass}
    (uses : framework ≠ .wdm) {number : FrameworkVersion} :
    (∃ driver, options.driverConfig = .ok driver ∧ driver.driverClass = framework ∧
        driver.framework? = some number) ↔
      options.readClass = .ok framework ∧ options.NoForeign framework ∧
        frameworkVersion framework (options.version framework) = .ok number ∧
        number.major = framework.frameworkMajor := by
  constructor
  · rintro ⟨driver, made, rfl, hasNumber⟩
    obtain ⟨classRead, noForeign, asked⟩ := driverConfig_eq_ok_iff.mp made
    rw [askedVersion_eq options uses, hasNumber, map_eq_ok_iff] at asked
    obtain ⟨_, found, same⟩ := asked
    cases same
    exact ⟨classRead, noForeign, found,
      (DriverConfig.takes_some_iff uses).mp (hasNumber ▸ driver.takes_framework?)⟩
  · rintro ⟨classRead, noForeign, found, sameMajor⟩
    obtain ⟨driver, made⟩ := DriverConfig.exists_ofParts_iff_takes.mpr
      ((DriverConfig.takes_some_iff uses).mpr sameMajor)
    obtain ⟨rfl, hasNumber⟩ := DriverConfig.ofParts_eq_ok_iff.mp made
    refine ⟨driver, driverConfig_eq_ok_iff.mpr ⟨classRead, noForeign, ?_⟩, rfl, hasNumber⟩
    rw [askedVersion_eq options uses, hasNumber, map_eq_ok_iff]
    exact ⟨number, found, rfl⟩

/-! ## Refused options -/

/-- The options are refused with what has been supplied, or a numeral stands for no number. -/
inductive IsExplained (options : Options) : Failure → Prop where
  | config (refusal : Refusal) : IsExplained options (.invalidConfig refusal options.supplied)
  | misuse (cause : Misuse) : IsExplained options (.misuse cause)

theorem failsOnly_isExplained_explain {α : Type} {options : Options} {outcome : Except Failure α}
    (fails : FailsOnly Failure.IsRefusal outcome) :
    FailsOnly options.IsExplained (options.explain outcome) := by
  cases outcome with
  | ok value => exact .ok value
  | error failure =>
      cases fails failure rfl with
      | config refusal supplied => exact .error (.config _)
      | overlong => exact .error (.misuse _)
      | malformed => exact .error (.misuse _)

theorem failsOnly_readClass (options : Options) : FailsOnly Failure.IsRefusal options.readClass :=
  options.driverClass.failsOnly_write.bind DriverClass.failsOnly_read

theorem failsOnly_askedVersion (options : Options) (driverClass : DriverClass) :
    FailsOnly Failure.IsRefusal (options.askedVersion driverClass) := by
  have ofVersion : ∀ version,
      FailsOnly Failure.IsRefusal (some <$> frameworkVersion driverClass version) := by
    intro version failure failed
    exact failsOnly_frameworkVersion driverClass version failure (map_eq_error_iff.mp failed)
  cases driverClass with
  | wdm => exact .ok none
  | kmdf => exact ofVersion _
  | umdf => exact ofVersion _

theorem failsOnly_isExplained_driverConfig (options : Options) :
    FailsOnly options.IsExplained options.driverConfig := by
  rw [driverConfig_eq]
  refine (failsOnly_isExplained_explain options.failsOnly_readClass).bind fun driverClass => ?_
  refine FailsOnly.bind ?_ fun _ => failsOnly_isExplained_explain <|
    (options.failsOnly_askedVersion driverClass).bind fun _ => DriverConfig.failsOnly_ofParts _ _
  rcases options.refuseForeign_cases driverClass with ⟨_, notRefused⟩ | ⟨_, refusal, refused⟩
  · rw [notRefused]
    exact .ok ()
  · rw [refused]
    exact .error (.config refusal)

theorem exists_driverConfig_eq_error {options : Options} {driverClass : DriverClass}
    (classRead : options.readClass = .ok driverClass)
    (foreign : ¬options.NoForeign driverClass) :
    ∃ refusal, options.driverConfig = .error (.invalidConfig refusal options.supplied) := by
  have classExplained : options.explain options.readClass = .ok driverClass :=
    explain_eq_ok_iff.mpr classRead
  rcases options.refuseForeign_cases driverClass with ⟨noForeign, _⟩ | ⟨_, refusal, refused⟩
  · exact absurd noForeign foreign
  · refine ⟨refusal, ?_⟩
    rw [driverConfig_eq, classExplained, ok_bind, refused, error_bind]

/-! ## Options that are texts -/

/-- Options that are given as texts. All of them but the class can be left out. -/
structure Texts where
  driverClass : String
  kmdfVersion : Option String
  umdfVersion : Option String
  targetArch : Option String
  pinnedVersion : Option String

namespace Texts

/-- The value of an option that is given as a text or left out. -/
def value (text : Option String) : Datum := (text.map Datum.text).getD .null

def options (texts : Texts) (layout : Datum) : Options where
  driverClass := .text texts.driverClass
  kmdfVersion := value texts.kmdfVersion
  umdfVersion := value texts.umdfVersion
  targetArch := value texts.targetArch
  pinnedVersion := value texts.pinnedVersion
  layout := layout

/-- The texts that are given, by the names of the options. -/
def given (texts : Texts) : Supplied :=
  ("driver_class", .text texts.driverClass) ::
    [("kmdf_version", texts.kmdfVersion), ("umdf_version", texts.umdfVersion),
      ("target_arch", texts.targetArch), ("pinned_kit_version", texts.pinnedVersion)].filterMap
        fun (name, text) => text.map fun text => (name, .text text)

theorem supplied_options (texts : Texts) (layout : Datum) :
    (texts.options layout).supplied = texts.given := by
  obtain ⟨driverClass, kmdf, umdf, arch, pinned⟩ := texts
  cases kmdf <;> cases umdf <;> cases arch <;> cases pinned <;> rfl

theorem isNull_value_iff {text : Option String} : (value text).isNull = true ↔ text = none := by
  cases text <;> simp [value, Datum.isNull]

theorem readClass_options (texts : Texts) (layout : Datum) :
    (texts.options layout).readClass = DriverClass.read texts.driverClass := by
  rw [readClass, options, Datum.write_text, ok_bind]

/-- The version that is given for a class. -/
def version (texts : Texts) : DriverClass → Option String
  | .kmdf => texts.kmdfVersion
  | .umdf => texts.umdfVersion
  | .wdm => none

theorem version_options (texts : Texts) (layout : Datum) (driverClass : DriverClass) :
    (texts.options layout).version driverClass = value (texts.version driverClass) := by
  cases driverClass <;> rfl

theorem noForeign_options_iff {texts : Texts} {layout : Datum} {driverClass : DriverClass} :
    (texts.options layout).NoForeign driverClass ↔
      ∀ other, other ≠ driverClass → texts.version other = none := by
  simp only [NoForeign, version_options, isNull_value_iff]

theorem frameworkVersion_value (driverClass : DriverClass) (text : Option String) :
    frameworkVersion driverClass (value text)
      = match text with
        | none => .ok ⟨driverClass.frameworkMajor, DriverConfig.defaultMinor⟩
        | some text => FrameworkVersion.read text := by
  cases text with
  | none => rfl
  | some text => exact FrameworkVersion.ofDatum_text text

/-! ## Accepted texts -/

variable {texts : Texts} {layout : Datum}

theorem frameworkVersion_value_eq_ok_iff {framework : DriverClass} {text : Option String}
    {number : FrameworkVersion} :
    frameworkVersion framework (value text) = .ok number ↔
      (text = none ∧ number = ⟨framework.frameworkMajor, DriverConfig.defaultMinor⟩) ∨
        ∃ spelled, text = some spelled ∧ FrameworkVersion.read spelled = .ok number := by
  rw [frameworkVersion_value]
  cases text with
  | none => simp [eq_comm]
  | some spelled => simp

/-- Texts make a driver of a framework just if they name its class, give no version for the other
framework, and give none for this one or one of its major number. -/
theorem exists_driverConfig_iff {framework : DriverClass} (uses : framework ≠ .wdm)
    {number : FrameworkVersion} :
    (∃ driver, (texts.options layout).driverConfig = .ok driver ∧
        driver.driverClass = framework ∧ driver.framework? = some number) ↔
      upperPlain (trim texts.driverClass) = framework.name ∧
        (∀ other, other ≠ framework → texts.version other = none) ∧
        ((texts.version framework = none ∧
            number = ⟨framework.frameworkMajor, DriverConfig.defaultMinor⟩) ∨
          ∃ text, texts.version framework = some text ∧
            FrameworkVersion.read text = .ok number ∧ number.major = framework.frameworkMajor) := by
  rw [exists_driverConfig_iff_found uses, readClass_options, DriverClass.read_eq_ok_iff,
    noForeign_options_iff, version_options, frameworkVersion_value_eq_ok_iff]
  refine and_congr_right fun _ => and_congr_right fun _ => ?_
  constructor
  · rintro ⟨unset | ⟨text, given, read⟩, sameMajor⟩
    · exact Or.inl unset
    · exact Or.inr ⟨text, given, read, sameMajor⟩
  · rintro (⟨unset, rfl⟩ | ⟨text, given, read, sameMajor⟩)
    · exact ⟨Or.inl ⟨unset, rfl⟩, rfl⟩
    · exact ⟨Or.inr ⟨text, given, read⟩, sameMajor⟩

theorem driverConfig_eq_wdm_iff :
    (texts.options layout).driverConfig = .ok .wdm ↔
      upperPlain (trim texts.driverClass) = DriverClass.wdm.name ∧
        texts.kmdfVersion = none ∧ texts.umdfVersion = none := by
  have noForeign_iff : (∀ other, other ≠ .wdm → texts.version other = none) ↔
      texts.kmdfVersion = none ∧ texts.umdfVersion = none := by
    constructor
    · exact fun unset => ⟨unset .kmdf (by decide), unset .umdf (by decide)⟩
    · rintro ⟨noKmdf, noUmdf⟩ other -
      cases other with
      | kmdf => exact noKmdf
      | umdf => exact noUmdf
      | wdm => rfl
  rw [driverConfig_eq_ok_iff, readClass_options, DriverClass.read_eq_ok_iff]
  simp only [DriverConfig.driverClass, noForeign_options_iff, noForeign_iff, askedVersion,
    DriverConfig.framework?, and_true]

end Texts

/-! ## Exactly the consistent texts -/

/-- Texts make a configuration of a class just if they name the class in any letter case and with
blanks around it, give no version for another class and, for a framework, either no version, which
stands for the usual one, or one of its own major number. Where they are refused, the refusal
carries exactly the texts that are given. -/
theorem accepts_consistent_texts (texts : Texts) (layout : Datum) :
    let options := texts.options layout
    let named := upperPlain (trim texts.driverClass)
    (∀ version, (∃ driver, options.driverConfig = .ok driver ∧ driver.driverClass = .kmdf ∧
          driver.framework? = some version) ↔
        named = "KMDF" ∧ texts.umdfVersion = none ∧
          ((texts.kmdfVersion = none ∧ version = ⟨1, 33⟩) ∨
            ∃ text, texts.kmdfVersion = some text ∧ FrameworkVersion.read text = .ok version ∧
              version.major = 1)) ∧
      (∀ version, (∃ driver, options.driverConfig = .ok driver ∧ driver.driverClass = .umdf ∧
          driver.framework? = some version) ↔
        named = "UMDF" ∧ texts.kmdfVersion = none ∧
          ((texts.umdfVersion = none ∧ version = ⟨2, 33⟩) ∨
            ∃ text, texts.umdfVersion = some text ∧ FrameworkVersion.read text = .ok version ∧
              version.major = 2)) ∧
      (options.driverConfig = .ok .wdm ↔
        named = "WDM" ∧ texts.kmdfVersion = none ∧ texts.umdfVersion = none) ∧
      ∀ refusal supplied,
        (options.driverConfig = .error (.invalidConfig refusal supplied) → supplied = texts.given) ∧
          options.driverConfig ≠ .error (.invalidOptions refusal supplied) := by
  intro options named
  have kmdfOnly : (∀ other, other ≠ .kmdf → texts.version other = none) ↔
      texts.umdfVersion = none := by
    refine ⟨fun unset => unset .umdf (by decide), fun noUmdf other different => ?_⟩
    cases other with
    | kmdf => exact absurd rfl different
    | umdf => exact noUmdf
    | wdm => rfl
  have umdfOnly : (∀ other, other ≠ .umdf → texts.version other = none) ↔
      texts.kmdfVersion = none := by
    refine ⟨fun unset => unset .kmdf (by decide), fun noKmdf other different => ?_⟩
    cases other with
    | kmdf => exact noKmdf
    | umdf => exact absurd rfl different
    | wdm => rfl
  refine ⟨fun version => ?_, fun version => ?_, Texts.driverConfig_eq_wdm_iff,
    fun refusal supplied => ⟨fun failed => ?_, fun failed => ?_⟩⟩
  · rw [Texts.exists_driverConfig_iff (by decide), kmdfOnly]
    rfl
  · rw [Texts.exists_driverConfig_iff (by decide), umdfOnly]
    rfl
  · cases options.failsOnly_isExplained_driverConfig _ failed
    exact texts.supplied_options layout
  · cases options.failsOnly_isExplained_driverConfig _ failed

/-- A class in small letters with blanks around it and a version of its own, and the same texts with
a version for the other framework as well. -/
theorem accepts_consistent_texts_blanks :
    let texts : Options.Texts := ⟨" umdf\t", none, some "2.31", some "arm64", none⟩
    let mixed : Options.Texts := { texts with kmdfVersion := some "" }
    (∃ driver, (texts.options .null).driverConfig = .ok driver ∧ driver.driverClass = .umdf ∧
        driver.framework? = some ⟨2, 31⟩) ∧
      ∃ refusal, (mixed.options .null).driverConfig
          = .error (.invalidConfig refusal
              [("driver_class", .text " umdf\t"), ("kmdf_version", .text ""),
                ("umdf_version", .text "2.31"), ("target_arch", .text "arm64")]) := by
  intro texts mixed
  have read : FrameworkVersion.read "2.31" = .ok ⟨2, 31⟩ := eq_ok_of_toOption (by decide)
  refine ⟨((accepts_consistent_texts texts .null).2.1 ⟨2, 31⟩).mpr
    ⟨by decide, rfl, Or.inr ⟨"2.31", rfl, read, rfl⟩⟩, ?_⟩
  have classRead : (mixed.options .null).readClass = .ok .umdf := by
    rw [Texts.readClass_options]
    exact DriverClass.read_eq_ok_iff.mpr (by decide)
  have foreign : ¬(mixed.options .null).NoForeign .umdf := fun noForeign =>
    Option.some_ne_none "" (Texts.noForeign_options_iff.mp noForeign .kmdf (by decide))
  obtain ⟨refusal, refused⟩ := exists_driverConfig_eq_error classRead foreign
  have given : mixed.given = [("driver_class", .text " umdf\t"), ("kmdf_version", .text ""),
      ("umdf_version", .text "2.31"), ("target_arch", .text "arm64")] := rfl
  rw [mixed.supplied_options, given] at refused
  exact ⟨refusal, refused⟩

end DriverKit.Options
