import DriverKit.Proofs.Options.Section

/-!
# Sources of settings

Every setting has sources of its own: a variable of the environment, the options section, and for
the architecture also what the build orchestrator says. The strongest source that gives a value
wins, and no other setting has a part in it. The layout can be given by the section alone.
-/

namespace DriverKit.Options

namespace Setting

/-! ## Sources -/

/-- The variable that gives a setting, if one does. -/
def source? : Setting → Option String
  | driverClass => some "WDK_DRIVER_CLASS"
  | kmdfVersion => some "WDK_KMDF_VERSION"
  | umdfVersion => some "WDK_UMDF_VERSION"
  | targetArch => some "WDK_TARGET_ARCH"
  | pinnedVersion => some "WDK_PINNED_KIT_VERSION"
  | layout => none

theorem lookup_sources (setting : Setting) : sources.lookup setting.name = setting.source? := by
  cases setting <;> decide

variable (environment : Environment) (fields : Fields)

/-- The value that the variable of a setting gives it. An empty variable gives none. -/
def fromVariable? (setting : Setting) : Option Datum :=
  (setting.source?.bind environment.filled?).map Datum.text

/-- The value that the options section gives a setting. A null gives none, except to the class, for
which it is a value like any other. -/
def fromSection? (setting : Setting) : Option Datum :=
  (Datum.field? fields setting.name).filter fun value =>
    decide (setting = driverClass) || !value.isNull

/-- The value that the build orchestrator gives a setting: it knows the architecture only. -/
def fromOrchestrator? : Setting → Option Datum
  | targetArch => (environment.filled? orchestratorVariable).map Datum.text
  | _ => none

/-- The value that a setting has in the strongest of its sources. For the architecture, a value of
the section that counts as absent, like a zero or an empty text, is weaker than what the
orchestrator says; for the layout it is none at all. -/
def winner? (setting : Setting) : Option Datum :=
  match setting with
  | layout => (layout.fromSection? fields).filter Datum.isPresent
  | targetArch =>
      (targetArch.fromVariable? environment).or <|
        ((targetArch.fromSection? fields).filter Datum.isPresent).or <|
          (targetArch.fromOrchestrator? environment).or (targetArch.fromSection? fields)
  | driverClass | kmdfVersion | umdfVersion | pinnedVersion =>
      (setting.fromVariable? environment).or (setting.fromSection? fields)

end Setting

/-! ## Settled options -/

/-- What options say about a setting. -/
def value (options : Options) : Setting → Datum
  | .driverClass => options.driverClass
  | .kmdfVersion => options.kmdfVersion
  | .umdfVersion => options.umdfVersion
  | .targetArch => options.targetArch
  | .pinnedVersion => options.pinnedVersion
  | .layout => options.layout

/-- The options with a value for every setting. -/
def ofValues (values : Setting → Datum) : Options where
  driverClass := values .driverClass
  kmdfVersion := values .kmdfVersion
  umdfVersion := values .umdfVersion
  targetArch := values .targetArch
  pinnedVersion := values .pinnedVersion
  layout := values .layout

@[simp]
theorem value_ofValues (values : Setting → Datum) (setting : Setting) :
    (ofValues values).value setting = values setting := by
  cases setting <;> rfl

/-- What becomes of a setting: the text of its winner, or for the layout the winner itself. A
setting without a winner is as usual. -/
def settled (winners : Setting → Option Datum) (setting : Setting) : Datum :=
  match winners setting with
  | none => usual.value setting
  | some winner => if setting = .layout then winner else .text winner.plain

/-- All winners of which a text is asked have one. -/
def AreWritable (winners : Setting → Option Datum) : Prop :=
  ∀ setting, setting ≠ .layout → ∀ winner, winners setting = some winner → winner.isWritable = true

/-! ## Options made of winners -/

/-- The text of the winner of a setting. -/
def writeWinner (winners : Setting → Option Datum) (setting : Setting) : Except Failure Datum :=
  match winners setting with
  | none => .ok (usual.value setting)
  | some winner => Datum.text <$> winner.write

/-- The options that winners make, setting by setting. -/
def ofWinners (winners : Setting → Option Datum) : Except Failure Options := do
  return {
    driverClass := ← writeWinner winners .driverClass
    kmdfVersion := ← writeWinner winners .kmdfVersion
    umdfVersion := ← writeWinner winners .umdfVersion
    targetArch := ← writeWinner winners .targetArch
    pinnedVersion := ← writeWinner winners .pinnedVersion
    layout := (winners .layout).getD usual.layout }

theorem writeWinner_eq_ok_iff {winners : Setting → Option Datum} {setting : Setting}
    (isText : setting ≠ .layout) {written : Datum} :
    writeWinner winners setting = .ok written ↔
      (∀ winner, winners setting = some winner → winner.isWritable = true) ∧
        settled winners setting = written := by
  unfold writeWinner settled
  cases winners setting with
  | none => simp
  | some winner =>
      simp only [if_neg isText, Option.some.injEq, forall_eq', Datum.write]
      cases winner.isWritable <;> simp [Functor.map, Except.map]

theorem failsOnly_writeWinner (winners : Setting → Option Datum) (setting : Setting) :
    FailsOnly (· = Failure.misuse .overlongNumeral) (writeWinner winners setting) := by
  unfold writeWinner Datum.write
  split
  · exact .ok _
  · split
    · exact .ok _
    · exact .error rfl

theorem failsOnly_ofWinners (winners : Setting → Option Datum) :
    FailsOnly (· = Failure.misuse .overlongNumeral) (ofWinners winners) :=
  (failsOnly_writeWinner winners _).bind fun _ =>
    (failsOnly_writeWinner winners _).bind fun _ =>
      (failsOnly_writeWinner winners _).bind fun _ =>
        (failsOnly_writeWinner winners _).bind fun _ =>
          (failsOnly_writeWinner winners _).bind fun _ => .ok _

theorem areWritable_of_ofWinners {winners : Setting → Option Datum} {options : Options}
    (made : ofWinners winners = .ok options) : AreWritable winners := by
  simp only [ofWinners, bind_eq_ok_iff] at made
  obtain ⟨_, driverClass, _, kmdf, _, umdf, _, arch, _, pinned, _⟩ := made
  intro setting isText
  cases setting with
  | driverClass => exact ((writeWinner_eq_ok_iff isText).mp driverClass).1
  | kmdfVersion => exact ((writeWinner_eq_ok_iff isText).mp kmdf).1
  | umdfVersion => exact ((writeWinner_eq_ok_iff isText).mp umdf).1
  | targetArch => exact ((writeWinner_eq_ok_iff isText).mp arch).1
  | pinnedVersion => exact ((writeWinner_eq_ok_iff isText).mp pinned).1
  | layout => exact absurd rfl isText

theorem ofWinners_of_areWritable {winners : Setting → Option Datum}
    (writable : AreWritable winners) : ofWinners winners = .ok (ofValues (settled winners)) := by
  have written : ∀ setting, setting ≠ .layout →
      writeWinner winners setting = .ok (settled winners setting) := fun setting isText =>
    (writeWinner_eq_ok_iff isText).mpr ⟨writable setting isText, rfl⟩
  have layout : (winners .layout).getD usual.layout = settled winners .layout := by
    unfold settled
    cases winners .layout <;> rfl
  rw [ofWinners, written .driverClass (by decide), written .kmdfVersion (by decide),
    written .umdfVersion (by decide), written .targetArch (by decide),
    written .pinnedVersion (by decide), layout]
  rfl

theorem value_of_ofWinners {winners : Setting → Option Datum} {options : Options}
    (made : ofWinners winners = .ok options) (setting : Setting) :
    options.value setting = settled winners setting := by
  rw [ofWinners_of_areWritable (areWritable_of_ofWinners made)] at made
  cases made
  exact value_ofValues _ setting

theorem ofWinners_of_not_areWritable {winners : Setting → Option Datum}
    (unwritable : ¬AreWritable winners) :
    ofWinners winners = .error (.misuse .overlongNumeral) := by
  cases made : ofWinners winners with
  | error failure => rw [failsOnly_ofWinners winners failure made]
  | ok options => exact absurd (areWritable_of_ofWinners made) unwritable

/-! ## Variables over a section -/

theorem outcome_override (environment : Environment) :
    ∀ {sources : List (String × String)} (fields : Fields), (sources.map Prod.fst).Nodup →
      ∃ after, (override environment sources fields).outcome = .ok after ∧
        ∀ name, Datum.field? after name
          = (((sources.lookup name).bind environment.filled?).map Datum.text).or
              (Datum.field? fields name)
  | [], fields, _ => ⟨fields, rfl, fun _ => rfl⟩
  | (first, source) :: rest, fields, nodup => by
      obtain ⟨notLater, restNodup⟩ := List.nodup_cons.mp nodup
      have unset : rest.lookup first = none := by
        rw [List.lookup_eq_none_iff]
        intro entry member
        rw [bne_iff_ne]
        rintro rfl
        exact notLater (List.mem_map.mpr ⟨entry, member, rfl⟩)
      have asked : ∀ name,
          ((first, source) :: rest).lookup name
            = if first = name then some source else rest.lookup name := by
        intro name
        by_cases same : first = name
        · simp [same]
        · simp [List.lookup_cons, beq_eq_false_iff_ne.mpr (Ne.symm same), same]
      unfold override
      cases filled : environment.filled? source with
      | none =>
          obtain ⟨after, done, found⟩ := outcome_override environment fields restNodup
          refine ⟨after, done, fun name => ?_⟩
          rw [found, asked]
          by_cases same : first = name
          · subst same
            simp [unset, filled]
          · rw [if_neg same]
      | some value =>
          obtain ⟨after, done, found⟩ := outcome_override environment
            (Scalar.put (.text first) (.text value) fields) restNodup
          refine ⟨after, ?_, fun name => ?_⟩
          · simp only [Traced.outcome_bind, Traced.outcome_say, ok_bind, done]
          · rw [found, asked, Datum.field?_put]
            by_cases same : first = name
            · subst same
              simp [unset, filled]
            · rw [if_neg same, if_neg same]

section

variable {environment : Environment} {fields after : Fields}

/-- In the fields the variables that are set have taken the place of what the section gives. -/
def IsOverridden (environment : Environment) (fields after : Fields) : Prop :=
  ∀ setting : Setting,
    Datum.field? after setting.name
      = (setting.fromVariable? environment).or (Datum.field? fields setting.name)

theorem exists_isOverridden (environment : Environment) (fields : Fields) :
    ∃ after, (override environment sources fields).outcome = .ok after ∧
      IsOverridden environment fields after := by
  obtain ⟨after, done, found⟩ := outcome_override environment fields
    (show (sources.map Prod.fst).Nodup by decide)
  refine ⟨after, done, fun setting => ?_⟩
  rw [found, setting.lookup_sources, Setting.fromVariable?]

theorem fromVariable?_cases (environment : Environment) (setting : Setting) :
    setting.fromVariable? environment = none ∨
      ∃ value : String, setting.fromVariable? environment = some (.text value) ∧
        (Datum.text value).isPresent = true := by
  unfold Setting.fromVariable?
  cases filled : setting.source?.bind environment.filled? with
  | none => exact Or.inl rfl
  | some value =>
      obtain ⟨source, _, isFilled⟩ := Option.bind_eq_some_iff.mp filled
      exact Or.inr ⟨value, rfl, (Option.filter_eq_some_iff.mp isFilled).2⟩

/-! ## The orchestrator -/

theorem bind_present? (value : Option Datum) :
    value.bind Datum.present? = value.filter Datum.isPresent := by
  cases value with
  | none => rfl
  | some value => simp [Datum.present?, Option.filter]

theorem field?_addOrchestrator_arch (environment : Environment) (fields : Fields) :
    Datum.field? (addOrchestrator environment fields) "target_arch"
      = ((Datum.field? fields "target_arch").filter Datum.isPresent).or
          (((environment.filled? orchestratorVariable).map Datum.text).or
            (Datum.field? fields "target_arch")) := by
  unfold addOrchestrator
  rw [bind_present?]
  cases kept : (Datum.field? fields "target_arch").filter Datum.isPresent with
  | none =>
      cases environment.filled? orchestratorVariable with
      | none => rfl
      | some arch =>
          rw [Datum.field?_put, if_pos rfl]
          rfl
  | some found => exact (Option.filter_eq_some_iff.mp kept).1

theorem field?_addOrchestrator (overridden : IsOverridden environment fields after)
    {setting : Setting} (notArch : setting ≠ .targetArch) :
    Datum.field? (addOrchestrator environment after) setting.name
      = (setting.fromVariable? environment).or (Datum.field? fields setting.name) := by
  have different : "target_arch" ≠ setting.name := by
    cases setting <;> first | decide | exact absurd rfl notArch
  rw [← overridden setting]
  unfold addOrchestrator
  split
  · rw [Datum.field?_put, if_neg different]
  · rfl

/-! ## Winners in the fields -/

theorem textOf_eq (fields : Fields) (name : String) :
    textOf fields name
      = match (Datum.field? fields name).filter fun value => !value.isNull with
        | none => .ok .null
        | some value => Datum.text <$> value.write := by
  unfold textOf
  cases Datum.field? fields name with
  | none => rfl
  | some value => cases absent : value.isNull <;> simp [absent, Option.filter]

theorem textOf_version (overridden : IsOverridden environment fields after) (setting : Setting)
    (notArch : setting ≠ .targetArch) (notClass : setting ≠ .driverClass) :
    textOf (addOrchestrator environment after) setting.name
      = match (setting.fromVariable? environment).or (setting.fromSection? fields) with
        | none => .ok .null
        | some winner => Datum.text <$> winner.write := by
  rw [textOf_eq, field?_addOrchestrator overridden notArch]
  rcases fromVariable?_cases environment setting with unset | ⟨value, set, _⟩
  · simp [unset, Setting.fromSection?, notClass]
  · simp [set, Option.filter, Datum.isNull]

theorem isNull_of_isPresent {value : Datum} (present : value.isPresent = true) :
    value.isNull = false := by
  cases value with
  | scalar value => cases value <;> first | rfl | cases present
  | _ => rfl

theorem textOf_arch (overridden : IsOverridden environment fields after) :
    textOf (addOrchestrator environment after) "target_arch"
      = writeWinner (Setting.winner? environment fields) .targetArch := by
  have inFields := overridden .targetArch
  simp only [Setting.name] at inFields
  have winner :
      (Datum.field? (addOrchestrator environment after) "target_arch").filter
          (fun value => !value.isNull)
        = Setting.winner? environment fields .targetArch := by
    rw [field?_addOrchestrator_arch, inFields]
    simp only [Setting.winner?, Setting.fromOrchestrator?, Setting.fromSection?, Setting.name]
    rcases fromVariable?_cases environment .targetArch with unset | ⟨value, set, present⟩
    · cases Datum.field? fields "target_arch" with
      | none =>
          cases environment.filled? orchestratorVariable <;>
            simp [unset, Option.filter, Datum.isNull]
      | some value =>
          cases present : value.isPresent with
          | true => simp [unset, Option.filter, present, isNull_of_isPresent present]
          | false =>
              cases null : value.isNull <;> cases environment.filled? orchestratorVariable <;>
                simp [unset, Option.filter, present, null] <;> rfl
    · simp [set, Option.filter, present, Datum.isNull]
  rw [textOf_eq, winner]
  rfl

theorem write_driverClass (overridden : IsOverridden environment fields after) :
    Datum.text <$> ((Datum.field? (addOrchestrator environment after) "driver_class").getD
        usual.driverClass).write
      = writeWinner (Setting.winner? environment fields) .driverClass := by
  have inFields : Datum.field? (addOrchestrator environment after) "driver_class"
      = (Setting.fromVariable? environment .driverClass).or
          (Datum.field? fields "driver_class") :=
    field?_addOrchestrator overridden (show Setting.driverClass ≠ .targetArch by decide)
  have fromSection : Setting.fromSection? fields .driverClass
      = Datum.field? fields "driver_class" := by
    unfold Setting.fromSection? Setting.name
    cases Datum.field? fields "driver_class" <;> rfl
  rw [inFields, writeWinner, Setting.winner?, fromSection]
  cases
    (Setting.fromVariable? environment .driverClass).or (Datum.field? fields "driver_class") with
  | none => rfl
  | some winner => rfl

theorem present_layout (overridden : IsOverridden environment fields after) :
    ((Datum.field? (addOrchestrator environment after) "layout").bind Datum.present?).getD (.map [])
      = (Setting.winner? environment fields .layout).getD usual.layout := by
  have inFields : Datum.field? (addOrchestrator environment after) "layout"
      = Datum.field? fields "layout" :=
    field?_addOrchestrator overridden (show Setting.layout ≠ .targetArch by decide)
  rw [inFields, bind_present?]
  simp only [Setting.winner?, Setting.fromSection?, Setting.name]
  cases Datum.field? fields "layout" with
  | none => rfl
  | some value =>
      cases present : value.isPresent with
      | true => simp [Option.filter, present, isNull_of_isPresent present]
      | false =>
          cases null : value.isNull <;> simp [Option.filter, present, null] <;> rfl

theorem ofFields_of_isOverridden (overridden : IsOverridden environment fields after) :
    ofFields (addOrchestrator environment after)
      = ofWinners (Setting.winner? environment fields) := by
  have kmdf : textOf (addOrchestrator environment after) "kmdf_version"
      = writeWinner (Setting.winner? environment fields) .kmdfVersion :=
    textOf_version overridden .kmdfVersion (by decide) (by decide)
  have umdf : textOf (addOrchestrator environment after) "umdf_version"
      = writeWinner (Setting.winner? environment fields) .umdfVersion :=
    textOf_version overridden .umdfVersion (by decide) (by decide)
  have pinned : textOf (addOrchestrator environment after) "pinned_kit_version"
      = writeWinner (Setting.winner? environment fields) .pinnedVersion :=
    textOf_version overridden .pinnedVersion (by decide) (by decide)
  rw [ofFields, ofWinners, ← write_driverClass overridden, ← kmdf, ← umdf, ← pinned,
    ← textOf_arch overridden, ← present_layout overridden, bind_map_left]

end

/-- A load makes its options of what wins each setting. -/
theorem outcome_load (loader : Yaml.Loader) (disk : Disk) (environment : Environment)
    (named : Option Path) :
    (load loader disk environment named).outcome
      = (readFiles loader disk named).outcome >>= fun fields =>
          ofWinners (Setting.winner? environment fields) := by
  rw [load, Traced.outcome_bind]
  congr 1
  funext fields
  obtain ⟨after, done, overridden⟩ := exists_isOverridden environment fields
  simp only [Traced.outcome_bind, Traced.outcome_lift, done, ok_bind,
    ofFields_of_isOverridden overridden]

theorem outcome_load_of_isSection {loader : Yaml.Loader} {disk : Disk} {environment : Environment}
    {named : Option Path} {fields : Fields} (isSection : IsSection loader disk named fields) :
    (load loader disk environment named).outcome =
      ofWinners (Setting.winner? environment fields) := by
  rw [outcome_load, outcome_readFiles_of_isSection isSection, ok_bind]

/-! ## One winner for each setting -/

/-- What wins a setting depends on the sources of this setting. -/
structure SameSources (setting : Setting) (environment other : Environment)
    (fields otherFields : Fields) : Prop where
  fromVariable : setting.fromVariable? environment = setting.fromVariable? other
  fromSection : setting.fromSection? fields = setting.fromSection? otherFields
  fromOrchestrator : setting.fromOrchestrator? environment = setting.fromOrchestrator? other

/-- A text is given to a setting: by its variable, or else by the section, where it is not empty. -/
inductive IsGiven (setting : Setting) (environment : Environment) (fields : Fields)
    (text : String) : Prop where
  | byVariable (set : setting.fromVariable? environment = some (.text text)) :
      IsGiven setting environment fields text
  | bySection (unset : setting.fromVariable? environment = none)
      (written : Datum.field? fields setting.name = some (.text text)) (nonempty : text ≠ "") :
      IsGiven setting environment fields text

section

variable {setting : Setting} {environment other : Environment} {fields otherFields : Fields}

theorem SameSources.winner?_eq (same : SameSources setting environment other fields otherFields) :
    setting.winner? environment fields = setting.winner? other otherFields := by
  have fromVariable := same.fromVariable
  have fromSection := same.fromSection
  have fromOrchestrator := same.fromOrchestrator
  cases setting <;>
    simp only [Setting.winner?, fromVariable, fromSection, fromOrchestrator]

theorem IsGiven.winner?_eq {text : String} (given : IsGiven setting environment fields text) :
    setting.winner? environment fields = some (.text text) := by
  cases given with
  | byVariable set =>
      cases setting with
      | layout => cases set
      | _ => simp only [Setting.winner?, set, Option.some_or]
  | bySection unset written nonempty =>
      have fromSection : setting.fromSection? fields = some (.text text) := by
        simp [Setting.fromSection?, written, Option.filter, Datum.isNull]
      have present : (Datum.text text).isPresent = true := by
        simpa [Datum.isPresent, Datum.opened, Scalar.isPresent] using nonempty
      cases setting <;>
        simp [Setting.winner?, unset, fromSection, Option.filter, present]

end

theorem settled_congr {winners others : Setting → Option Datum} {setting : Setting}
    (same : winners setting = others setting) :
    settled winners setting = settled others setting := by
  rw [settled, settled, same]

/-- Each setting becomes what wins among its own sources. Options are loaded just if every winner
of which a text is asked has one. A load with the same sources for a setting gives it the same
value, whatever the sources of the others are; and by which way texts are given to settings makes
no difference. -/
theorem load_by_sources {loader : Yaml.Loader} {disk : Disk} {environment : Environment}
    {named : Option Path} {fields : Fields} (isSection : IsSection loader disk named fields) :
    let winners (setting : Setting) := setting.winner? environment fields
    let outcome := (load loader disk environment named).outcome
    (AreWritable winners →
        ∃ options, outcome = .ok options ∧
          ∀ setting, options.value setting = settled winners setting) ∧
      (¬AreWritable winners → outcome = .error (.misuse .overlongNumeral)) ∧
      ∀ otherDisk otherEnvironment otherNamed otherFields,
        IsSection loader otherDisk otherNamed otherFields →
          let otherOutcome := (load loader otherDisk otherEnvironment otherNamed).outcome
          (∀ options others, outcome = .ok options → otherOutcome = .ok others →
            ∀ setting, SameSources setting environment otherEnvironment fields otherFields →
              options.value setting = others.value setting) ∧
            ((∀ setting, SameSources setting environment otherEnvironment fields otherFields ∨
                ∃ text, IsGiven setting environment fields text ∧
                  IsGiven setting otherEnvironment otherFields text) →
              otherOutcome = outcome) := by
  intro winners outcome
  have made : outcome = ofWinners winners := by
    rw [show outcome = _ from outcome_load loader disk environment named,
      outcome_readFiles_of_isSection isSection, ok_bind]
  refine ⟨fun writable => ?_, fun unwritable => ?_, ?_⟩
  · exact ⟨_, made.trans (ofWinners_of_areWritable writable), value_ofValues _⟩
  · exact made.trans (ofWinners_of_not_areWritable unwritable)
  · intro otherDisk otherEnvironment otherNamed otherFields otherIsSection otherOutcome
    let otherWinners (setting : Setting) := setting.winner? otherEnvironment otherFields
    have otherMade : otherOutcome = ofWinners otherWinners := by
      rw [show otherOutcome = _ from outcome_load loader otherDisk otherEnvironment otherNamed,
        outcome_readFiles_of_isSection otherIsSection, ok_bind]
    constructor
    · intro options others isOk otherIsOk setting same
      rw [value_of_ofWinners (made ▸ isOk), value_of_ofWinners (otherMade ▸ otherIsOk)]
      exact settled_congr same.winner?_eq
    · intro sameOrGiven
      have sameWinners : otherWinners = winners := by
        funext setting
        rcases sameOrGiven setting with same | ⟨text, given, otherGiven⟩
        · exact same.winner?_eq.symm
        · exact otherGiven.winner?_eq.trans given.winner?_eq.symm
      rw [otherMade, sameWinners, made]

/-- Texts from variables over a nested section with other values, and the same texts from the
section of a named file, where the orchestrator builds for another architecture. -/
theorem load_by_sources_two_routes :
    let loader := Yaml.Loader.ofLevels 8
    let first := "wdk: \x7bdriver_class: UMDF, umdf_version: 2, target_arch: 0\x7d\n"
    let second := "driver_class: UMDF\numdf_version: '2.31'\ntarget_arch: arm64\n"
    let disk : Disk :=
      { Disk.empty with
        entries :=
          [(⟨["wdk.yaml"]⟩, .file first.toUTF8),
            (⟨["own.yaml"]⟩, .file second.toUTF8)] }
    let environment : Environment :=
      [("WDK_UMDF_VERSION", "2.31"), ("WDK_TARGET_ARCH", "arm64")]
    let other : Environment := [(orchestratorVariable, "x86_64")]
    ∃ options,
      (load loader disk environment none).outcome = .ok options ∧
        options.value .umdfVersion = .text "2.31" ∧ options.value .targetArch = .text "arm64" ∧
        options.value .pinnedVersion = .null ∧
        (load loader disk other (some (Path.ofText "own.yaml"))).outcome = .ok options := by
  intro loader first second disk environment other
  let firstOutline : Yaml.Outline :=
    .map [("wdk", .map [("driver_class", .text "UMDF"), ("umdf_version", .number 2),
      ("target_arch", .number 0)])]
  let secondOutline : Yaml.Outline :=
    .map [("driver_class", .text "UMDF"), ("umdf_version", .text "2.31"),
      ("target_arch", .text "arm64")]
  have firstText : Text.decodeLines? first.toUTF8 = some first.toList := by decide +kernel
  have secondText : Text.decodeLines? second.toUTF8 = some second.toList := by decide +kernel
  have firstRead : loader.read first.toUTF8 = .ok firstOutline.datum :=
    Yaml.Loader.read_ofLevels_of_matches firstText (by decide +kernel)
  have secondRead : loader.read second.toUTF8 = .ok secondOutline.datum :=
    Yaml.Loader.read_ofLevels_of_matches secondText (by decide +kernel)
  have known : ∀ keys : List Setting, ∀ fields : Fields,
      fields.map Prod.fst = keys.map (fun setting => Scalar.text setting.name) →
        IsKnown fields := by
    intro keys fields same key member
    rw [same] at member
    obtain ⟨setting, _, isName⟩ := List.mem_map.mp member
    exact ⟨setting, isName.symm⟩
  let fields : Fields :=
    [(.text "driver_class", .text "UMDF"), (.text "umdf_version", .int 2),
      (.text "target_arch", .int 0)]
  have firstSection : IsSection loader disk none fields :=
    .inFile rfl (.written firstRead rfl
      (known [.driverClass, .umdfVersion, .targetArch] _ rfl))
  have secondSection : IsSection loader disk (some (Path.ofText "own.yaml"))
      [(.text "driver_class", .text "UMDF"), (.text "umdf_version", .text "2.31"),
        (.text "target_arch", .text "arm64")] :=
    .inFile rfl (.written secondRead rfl
      (known [.driverClass, .umdfVersion, .targetArch] _ rfl))
  obtain ⟨loads, _, anyRoute⟩ := @load_by_sources loader disk environment none _ firstSection
  have writable : ∀ (setting : Setting) (winner : Datum),
      setting.winner? environment fields = some winner → winner.isWritable = true := by
    intro setting winner wins
    cases setting <;> cases wins <;> rfl
  obtain ⟨options, loaded, settledAll⟩ := loads fun setting _ => writable setting
  refine ⟨options, loaded, settledAll .umdfVersion, settledAll .targetArch,
    settledAll .pinnedVersion, ?_⟩
  rw [← loaded]
  apply (anyRoute _ _ _ _ secondSection).2
  intro setting
  cases setting with
  | umdfVersion => exact Or.inr ⟨"2.31", .byVariable rfl, .bySection rfl rfl (by decide)⟩
  | targetArch => exact Or.inr ⟨"arm64", .byVariable rfl, .bySection rfl rfl (by decide)⟩
  | _ => exact Or.inl ⟨rfl, rfl, rfl⟩

end DriverKit.Options
