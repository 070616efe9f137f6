import DriverKit.Cache.Document
import DriverKit.Proofs.Define
import DriverKit.Proofs.Driver
import DriverKit.Proofs.KitVersion
import DriverKit.Proofs.Path
import DriverKit.Proofs.Resolution

/-!
# Cache documents, written and read

A configuration that is written as a document is read again as it was, field by field. What this
takes of a configuration is said once; resolved configurations have it, and so has everything that
a document was ever read as.
-/

namespace DriverKit

/-! ## Configurations that can be kept -/

/-- A configuration that can be written and read again: its versions can, and no definition is
given twice. -/
structure BuildConfig.IsReadable (config : BuildConfig) : Prop where
  version : config.key.version.IsReadable
  driver : config.key.driver.IsReadable
  defines : (config.defines.map Prod.fst).Nodup

theorem Resolution.nodup_names_defines (config : DriverConfig) (arch : Arch) :
    ((defines config arch).map Prod.fst).Nodup := by
  cases config <;> cases arch <;>
    simp [defines, archDefines, modeDefines, frameworkDefines, DriverConfig.driverClass,
      DriverConfig.framework?, DriverClass.isKernelMode, DriverClass.name]

/-- A resolved configuration is for the version of one of the installations and for the driver
that was asked for. -/
theorem Resolution.exists_of_resolve {layout : KitLayout} {installations : List Installation}
    {driver : DriverConfig} {arch : Arch} {pin : Option KitVersion} {consulted : List Path}
    {config : BuildConfig}
    (resolved : (resolve layout installations driver arch pin consulted).outcome = .ok config) :
    ∃ installation ∈ installations,
      config.key = ⟨installation.version, driver, arch⟩ ∧
        config.defines = Resolution.defines driver arch := by
  obtain ⟨installation, selected, isFor⟩ := resolve_eq_ok_iff.mp resolved
  exact ⟨installation, Installation.mem_of_select selected, isFor.key, isFor.defines⟩

namespace Cache

open Yaml (Outline)

/-! ## Fields of a document -/

@[simp]
theorem field?_text_cons (key name : String) (value : Datum) (rest : List (Scalar × Datum)) :
    Datum.field? ((.text key, value) :: rest) name
      = if key = name then some value else Datum.field? rest name := by
  by_cases same : key = name
  · simp [Datum.field?, Datum.lookup?, Scalar.same, Scalar.whole?, same]
  · simp [Datum.field?, Datum.lookup?, Scalar.same, Scalar.whole?, same]

theorem itemData_map_text (values : List String) :
    Outline.itemData (values.map .text) = values.map Datum.text := by
  induction values with
  | nil => rfl
  | cons value rest inductionHypothesis =>
      simp [Outline.itemData, Outline.datum, inductionHypothesis]

theorem items_texts (values : List String) :
    items (Outline.texts values).datum = .ok (values.map Datum.text) := by
  simp [Outline.texts, Outline.datum, items, Datum.opened, itemData_map_text]

theorem paths_texts (list : List Path) :
    paths (Outline.texts (list.map Path.text)).datum = .ok list := by
  rw [paths, items_texts]
  refine bind_eq_ok_iff.mpr ⟨_, rfl, mapM_eq_ok_iff.mpr ?_⟩
  rw [List.map_map, List.forall₂_map_left_iff, List.forall₂_same]
  intro listed _
  simp [path, Path.ofText_text]

/-- A list of texts counts as present unless it is empty. -/
theorem present?_texts (values : List String) :
    (values = [] ∧ (Outline.texts values).datum.present? = none) ∨
      (Outline.texts values).datum.present? = some (Outline.texts values).datum := by
  cases values with
  | nil => exact Or.inl ⟨rfl, rfl⟩
  | cons first rest =>
      right
      simp [Outline.texts, Outline.datum, Outline.itemData, Datum.present?, Datum.isPresent,
        Datum.opened]

theorem writeTexts_texts (values : List String) :
    (do (← items (Outline.texts values).datum).mapM Datum.write) = Except.ok values := by
  rw [items_texts]
  refine bind_eq_ok_iff.mpr ⟨_, rfl, mapM_eq_ok_iff.mpr ?_⟩
  rw [List.forall₂_map_left_iff, List.forall₂_same]
  intro value _
  exact Datum.write_text value

theorem entryData_defines (defines : List Define) :
    Outline.entryData (defines.map fun (name, value) => (name, Outline.optional value))
      = defines.map fun (name, value) => (.text name, (Outline.optional value).datum) := by
  induction defines with
  | nil => rfl
  | cons entry rest inductionHypothesis =>
      simp [Outline.entryData, inductionHypothesis]

theorem readDefines_map {defines : List Define}
    (nodup : (defines.map Prod.fst).Nodup) :
    readDefines
        (Outline.map (defines.map fun (name, value) => (name, Outline.optional value))).datum
      = .ok defines := by
  cases defines with
  | nil => rfl
  | cons first rest =>
      have opened :
          (Outline.map ((first :: rest).map fun (name, value) =>
              (name, Outline.optional value))).datum.present?.map Datum.opened
            = some (.map ((first :: rest).map fun (name, value) =>
                (.text name, (Outline.optional value).datum))) := by
        rw [← entryData_defines]
        simp [Outline.datum, Outline.entryData, Datum.present?, Datum.isPresent,
          Datum.opened]
      rw [readDefines, opened]
      refine bind_eq_ok_iff.mpr ⟨first :: rest, mapM_eq_ok_iff.mpr ?_, ?_⟩
      · rw [List.forall₂_map_left_iff, List.forall₂_same]
        rintro ⟨name, value⟩ _
        cases value with
        | none => rfl
        | some spelled => rfl
      · rw [Define.latest_of_nodup nodup]
        rfl

/-! ## Parts of a document -/

/-- Tells whether a document has the format number that is supported. -/
def isSupported (fields : List (Scalar × Datum)) : Bool :=
  match (Datum.field? fields "format_version").getD .null with
  | .scalar value => value.same (.int formatNumber)
  | _ => false

/-- What a document says before its definitions: the key, the root, and the directories of headers
and libraries. -/
def readHead (fields : List (Scalar × Datum)) :
    Except Failure (ConfigKey × Path × List Path × List Path) := do
  let key ← readKey fields
  let kitRoot ← path (← required fields "kit_root")
  let includeDirs ← paths (← required fields "include_dirs")
  let libDirs ← paths (← required fields "lib_dirs")
  return (key, kitRoot, includeDirs, libDirs)

/-- What a document says after its definitions: the libraries and the paths to watch. -/
def readTail (fields : List (Scalar × Datum)) : Except Failure (List String × List Path) := do
  let linkLibs ← (← items (← required fields "link_libs")).mapM Datum.write
  let rerunPaths ←
    match (Datum.field? fields "rerun_paths").bind Datum.present? with
    | none => .ok []
    | some value => paths value
  return (linkLibs, rerunPaths)

/-- A document is read in three parts: what it says before its definitions, these, and the rest. -/
theorem decode_of_opened {document : Datum} {fields : List (Scalar × Datum)}
    (opened : document.opened = .map fields) (supported : isSupported fields = true) :
    decode document = (do
      let (key, kitRoot, includeDirs, libDirs) ← readHead fields
      let defines ← readDefines ((Datum.field? fields "defines").getD .null)
      let (linkLibs, rerunPaths) ← readTail fields
      return ⟨key, kitRoot, includeDirs, libDirs, defines, linkLibs, rerunPaths⟩) := by
  unfold isSupported at supported
  unfold decode readHead readTail
  cases format : (Datum.field? fields "format_version").getD .null with
  | scalar value =>
      rw [format] at supported
      simp only [opened, format, show value.same (.int formatNumber) = true from supported,
        Bool.not_true, Bool.false_eq_true, if_false, bind_assoc, pure_bind]
      cases (Datum.field? fields "rerun_paths").bind Datum.present? with
      | none => simp only [pure_bind, ok_bind]
      | some value => simp only [bind_assoc, pure_bind]
  | _ =>
      rw [format] at supported
      cases supported

theorem decode_of_not_supported {document : Datum} {fields : List (Scalar × Datum)}
    (opened : document.opened = .map fields) (other : isSupported fields = false) :
    let format := (Datum.field? fields "format_version").getD .null
    decode document
      = if format.isWritable then .error (.misuse (.unsupportedFormat format.shown))
        else .error (.misuse .overlongNumeral) := by
  unfold isSupported at other
  unfold decode
  cases format : (Datum.field? fields "format_version").getD .null with
  | scalar value =>
      rw [format] at other
      simp only [opened, format, show value.same (.int formatNumber) = false from other,
        Bool.not_false, if_true]
  | _ => simp only [opened, format, Bool.not_false, if_true]

/-! ## Whole documents -/

/-- The key of a configuration is read again from its four fields. -/
theorem readKey_encode {config : BuildConfig} (readable : config.IsReadable) :
    readKey (Outline.entryData (encode config)) = .ok config.key := by
  have version : KitVersion.ofDatum (.text config.key.version.text) = .ok config.key.version := by
    rw [KitVersion.ofDatum_text]
    exact KitVersion.read_text readable.version
  have driver := DriverConfig.ofData_name_frameworkDatum readable.driver
  have arch := Arch.read_name config.key.arch
  have framework :
      (Outline.optional (config.key.driver.framework?.map FrameworkVersion.text)).datum
        = config.key.driver.frameworkDatum := by
    cases found : config.key.driver.framework? with
    | none => simp [DriverConfig.frameworkDatum, found, Outline.optional, Outline.datum]
    | some number => simp [DriverConfig.frameworkDatum, found, Outline.optional, Outline.datum]
  simp [readKey, encode, Outline.entryData, required, framework, Outline.datum, version, driver,
    arch, bind, Except.bind, pure, Except.pure]

/-- A configuration that can be kept is read again from its document as it was. -/
theorem decode_encode_of_isReadable {config : BuildConfig} (readable : config.IsReadable) :
    decode (Outline.map (encode config)).datum = .ok config := by
  have key := readKey_encode readable
  have kitRoot : path (.text config.kitRoot.text) = .ok config.kitRoot := by
    simp [path, Path.ofText_text]
  have includeDirs := paths_texts config.includeDirs
  have libDirs := paths_texts config.libDirs
  have defines := readDefines_map readable.defines
  have linkLibs := writeTexts_texts config.linkLibs
  have rerunPaths := paths_texts config.rerunPaths
  have opened :
      (Outline.map (encode config)).datum.opened = .map (Outline.entryData (encode config)) := rfl
  have format :
      Datum.field? (Outline.entryData (encode config)) "format_version" = some (.int 1) := by
    simp [encode, Outline.entryData, Outline.datum, formatNumber]
  have fields :
      required (Outline.entryData (encode config)) "kit_root"
          = .ok (.text config.kitRoot.text) ∧
        required (Outline.entryData (encode config)) "include_dirs"
          = .ok (Outline.texts (config.includeDirs.map Path.text)).datum ∧
        required (Outline.entryData (encode config)) "lib_dirs"
          = .ok (Outline.texts (config.libDirs.map Path.text)).datum ∧
        Datum.field? (Outline.entryData (encode config)) "defines"
          = some (Outline.map (config.defines.map fun (name, value) =>
              (name, Outline.optional value))).datum ∧
        required (Outline.entryData (encode config)) "link_libs"
          = .ok (Outline.texts config.linkLibs).datum ∧
        Datum.field? (Outline.entryData (encode config)) "rerun_paths"
          = some (Outline.texts (config.rerunPaths.map Path.text)).datum := by
    simp [required, encode, Outline.entryData, Define.latest_of_nodup readable.defines,
      Outline.datum]
  obtain ⟨kitRootField, includeField, libField, definesField, linkField, rerunField⟩ := fields
  unfold decode
  rw [opened]
  have supported : (Scalar.int 1).same (.int formatNumber) = true := rfl
  simp only [format, Option.getD_some, supported, Bool.not_true, Bool.false_eq_true, if_false]
  refine bind_eq_ok_iff.mpr ⟨_, key, ?_⟩
  refine bind_eq_ok_iff.mpr ⟨_, kitRootField, bind_eq_ok_iff.mpr ⟨_, kitRoot, ?_⟩⟩
  refine bind_eq_ok_iff.mpr ⟨_, includeField, bind_eq_ok_iff.mpr ⟨_, includeDirs, ?_⟩⟩
  refine bind_eq_ok_iff.mpr ⟨_, libField, bind_eq_ok_iff.mpr ⟨_, libDirs, ?_⟩⟩
  rw [definesField, Option.getD_some]
  refine bind_eq_ok_iff.mpr ⟨_, defines, ?_⟩
  refine bind_eq_ok_iff.mpr ⟨_, linkField, ?_⟩
  obtain ⟨texts, itemsRead, textsWritten⟩ := bind_eq_ok_iff.mp linkLibs
  refine bind_eq_ok_iff.mpr ⟨_, itemsRead, bind_eq_ok_iff.mpr ⟨_, textsWritten, ?_⟩⟩
  rw [rerunField, Option.bind_some]
  rcases present?_texts (config.rerunPaths.map Path.text) with ⟨empty, absent⟩ | present
  · have noPaths : config.rerunPaths = [] := List.map_eq_nil_iff.mp empty
    rw [absent, ← noPaths]
    rfl
  · rw [present]
    exact bind_eq_ok_iff.mpr ⟨_, rerunPaths, rfl⟩

/-! ## Where readable configurations come from -/

theorem exists_of_readKey {fields : List (Scalar × Datum)} {key : ConfigKey}
    (accepted : readKey fields = .ok key) :
    (∃ text, KitVersion.read text = .ok key.version) ∧
      ∃ driverClass framework,
        required fields "driver_class" = .ok driverClass ∧
          required fields "framework_version" = .ok framework ∧
            DriverConfig.ofData driverClass framework = .ok key.driver := by
  obtain ⟨versionValue, _, afterVersion⟩ := bind_eq_ok_iff.mp accepted
  obtain ⟨version, versionRead, afterField⟩ := bind_eq_ok_iff.mp afterVersion
  obtain ⟨text, _, textRead⟩ := bind_eq_ok_iff.mp versionRead
  obtain ⟨driverClass, classField, afterClass⟩ := bind_eq_ok_iff.mp afterField
  obtain ⟨framework, frameworkField, afterFramework⟩ := bind_eq_ok_iff.mp afterClass
  obtain ⟨driver, driverRead, afterDriver⟩ := bind_eq_ok_iff.mp afterFramework
  obtain ⟨archValue, _, afterValue⟩ := bind_eq_ok_iff.mp afterDriver
  obtain ⟨archText, _, afterText⟩ := bind_eq_ok_iff.mp afterValue
  obtain ⟨arch, _, result⟩ := bind_eq_ok_iff.mp afterText
  cases result
  exact ⟨⟨text, textRead⟩, driverClass, framework, classField, frameworkField, driverRead⟩

theorem isReadable_of_readKey {fields : List (Scalar × Datum)} {key : ConfigKey}
    (accepted : readKey fields = .ok key) : key.version.IsReadable ∧ key.driver.IsReadable := by
  obtain ⟨⟨_, textRead⟩, _, _, _, _, driverRead⟩ := exists_of_readKey accepted
  exact ⟨KitVersion.isReadable_of_read textRead, DriverConfig.isReadable_of_ofData driverRead⟩

theorem readKey_of_readHead {fields : List (Scalar × Datum)}
    {head : ConfigKey × Path × List Path × List Path} (accepted : readHead fields = .ok head) :
    readKey fields = .ok head.1 := by
  obtain ⟨key, keyRead, afterKey⟩ := bind_eq_ok_iff.mp accepted
  obtain ⟨_, _, afterRootField⟩ := bind_eq_ok_iff.mp afterKey
  obtain ⟨_, _, afterRoot⟩ := bind_eq_ok_iff.mp afterRootField
  obtain ⟨_, _, afterIncludeField⟩ := bind_eq_ok_iff.mp afterRoot
  obtain ⟨_, _, afterInclude⟩ := bind_eq_ok_iff.mp afterIncludeField
  obtain ⟨_, _, afterLibField⟩ := bind_eq_ok_iff.mp afterInclude
  obtain ⟨_, _, result⟩ := bind_eq_ok_iff.mp afterLibField
  cases result
  exact keyRead

theorem nodup_names_readDefines {value : Datum} {defines : List Define}
    (accepted : readDefines value = .ok defines) : (defines.map Prod.fst).Nodup := by
  unfold readDefines at accepted
  split at accepted
  · cases accepted
    exact List.nodup_nil
  · obtain ⟨read, _, result⟩ := bind_eq_ok_iff.mp accepted
    cases result
    exact Define.nodup_names_latest read
  · cases accepted

/-- The key and the definitions of a configuration come from the fields of the document that it was
read from. -/
theorem exists_of_decode {document : Datum} {config : BuildConfig}
    (accepted : decode document = .ok config) :
    ∃ fields, document.opened = .map fields ∧ readKey fields = .ok config.key ∧
      ∃ value, readDefines value = .ok config.defines := by
  cases opened : document.opened with
  | map fields =>
      cases supported : isSupported fields with
      | true =>
          rw [decode_of_opened opened supported] at accepted
          obtain ⟨head, headRead, afterHead⟩ := bind_eq_ok_iff.mp accepted
          obtain ⟨defines, definesRead, afterDefines⟩ := bind_eq_ok_iff.mp afterHead
          obtain ⟨tail, _, result⟩ := bind_eq_ok_iff.mp afterDefines
          cases result
          exact ⟨fields, rfl, readKey_of_readHead headRead, _, definesRead⟩
      | false =>
          rw [decode_of_not_supported opened supported] at accepted
          split at accepted
          · cases accepted
          · cases accepted
  | _ =>
      rw [decode, opened] at accepted
      cases accepted

/-- A document that is read gives a configuration that can be kept. -/
theorem isReadable_of_decode {document : Datum} {config : BuildConfig}
    (accepted : decode document = .ok config) : config.IsReadable := by
  obtain ⟨fields, _, keyRead, value, definesRead⟩ := exists_of_decode accepted
  obtain ⟨version, driver⟩ := isReadable_of_readKey keyRead
  exact ⟨version, driver, nodup_names_readDefines definesRead⟩

/-- A resolution for a driver configuration that can be kept, among installations whose versions
were read, gives a configuration that can be kept. -/
theorem isReadable_of_resolve {layout : KitLayout} {installations : List Installation}
    {driver : DriverConfig} {arch : Arch} {pin : Option KitVersion} {consulted : List Path}
    {config : BuildConfig}
    (versions : ∀ installation ∈ installations,
      ∃ text, KitVersion.read text = .ok installation.version)
    (readable : driver.IsReadable)
    (resolved :
      (Resolution.resolve layout installations driver arch pin consulted).outcome = .ok config) :
    config.IsReadable := by
  obtain ⟨installation, member, key, defines⟩ := Resolution.exists_of_resolve resolved
  obtain ⟨text, versionRead⟩ := versions installation member
  exact
    { version := by
        rw [key]
        exact KitVersion.isReadable_of_read versionRead
      driver := by
        rw [key]
        exact readable
      defines := by
        rw [defines]
        exact Resolution.nodup_names_defines driver arch }

/-- The configurations that come up: those that are resolved, where versions are read from texts
or values and the minor framework version may be the one that is used if none is asked for, and
those that any document at all is read as. -/
inductive Produced : BuildConfig → Prop where
  | resolved {layout : KitLayout} {installations : List Installation} {driver : DriverConfig}
      {arch : Arch} {pin : Option KitVersion} {consulted : List Path} {config : BuildConfig} :
      (∀ installation ∈ installations, ∃ text, KitVersion.read text = .ok installation.version) →
      (∀ version, driver.framework? = some version →
        (∃ value, FrameworkVersion.ofDatum value = .ok version) ∨
          version.minor = DriverConfig.defaultMinor) →
      (Resolution.resolve layout installations driver arch pin consulted).outcome = .ok config →
      Produced config
  | decoded {document : Datum} {config : BuildConfig} :
      decode document = .ok config → Produced config

theorem isReadable_of_produced {config : BuildConfig} (produced : Produced config) :
    config.IsReadable := by
  cases produced with
  | resolved versions framework resolved =>
      refine isReadable_of_resolve versions ?_ resolved
      intro version found
      rcases framework version found with ⟨value, accepted⟩ | usual
      · exact FrameworkVersion.isReadable_of_ofDatum accepted
      · exact DriverConfig.isReadable_of_defaultMinor found usual
  | decoded accepted => exact isReadable_of_decode accepted

/-- Writing a configuration as a document and reading that gives the same configuration: the same
fields of its version, the same order of its paths and libraries, and the same names, values and
order of its definitions. -/
theorem decode_encode {config : BuildConfig} (produced : Produced config) :
    decode (Outline.map (encode config)).datum = .ok config :=
  decode_encode_of_isReadable (isReadable_of_produced produced)

/-- A driver without a framework, resolved for the single installation of version 10.0. -/
theorem produced_of_resolve_wdm {layout : KitLayout} {root : Path} {method : String} {arch : Arch}
    {consulted : List Path} {config : BuildConfig}
    (resolved :
      (Resolution.resolve layout [⟨root, ⟨[10, 0]⟩, method⟩] .wdm arch none consulted).outcome
        = .ok config) :
    Produced config := by
  refine .resolved (fun installation member => ⟨"10.0", ?_⟩) (fun version found => ?_) resolved
  · rw [List.mem_singleton.mp member]
    rfl
  · cases found

theorem decode_encode_wdm :
    let config : BuildConfig :=
      { key := ⟨⟨[10, 0]⟩, .wdm, .x64⟩
        kitRoot := Path.ofText "/kit"
        includeDirs :=
          ["/kit/Include/10.0/km", "/kit/Include/10.0/shared", "/kit/Include/10.0/km/crt"].map
            Path.ofText
        libDirs := [Path.ofText "/kit/Lib/10.0/km/x64"]
        defines := [("_WIN64", none), ("_AMD64_", none), ("AMD64", none), ("_KERNEL_MODE", none)]
        linkLibs := ["BufferOverflowFastFailK", "ntoskrnl", "hal", "wmilib"]
        rerunPaths :=
          ["/kit/Lib", "/kit/Include/10.0/km", "/kit/Include/10.0/shared",
            "/kit/Include/10.0/km/crt", "/kit/Lib/10.0/km/x64"].map Path.ofText }
    Produced config ∧ decode (Outline.map (encode config)).datum = .ok config := by
  intro config
  have resolved :
      (Resolution.resolve (.usual .fewest) [⟨Path.ofText "/kit", ⟨[10, 0]⟩, "environment"⟩] .wdm
        .x64 none []).outcome = .ok config := rfl
  have produced := produced_of_resolve_wdm resolved
  exact ⟨produced, decode_encode produced⟩

end Cache

end DriverKit
