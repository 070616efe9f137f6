import DriverKit.Proofs.Options.Sources

/-!
# Settings without a value

A setting that an options section gives no value may be left out of the section, or be named there
with a null. Which of the two is done makes no difference, except to the class: for the class a null
is a value like any other, the name of a class that there is not.
-/

namespace DriverKit

/-- A name that is looked up among fields with one more among them. -/
theorem Datum.field?_append_cons (key name : String) (value : Datum)
    (before after : List (Scalar × Datum)) :
    Datum.field? (before ++ (.text key, value) :: after) name
      = if key = name then (Datum.field? before name).or (some value)
        else Datum.field? (before ++ after) name := by
  have inFront : ∀ fields : List (Scalar × Datum),
      Datum.field? (before ++ fields) name
        = (Datum.field? before name).or (Datum.field? fields name) := by
    intro fields
    simp only [Datum.field?, Datum.lookup?, List.find?_append]
    cases before.find? fun entry => entry.1.same (.text name) <;> rfl
  rw [inFront, inFront, Cache.field?_text_cons]
  split <;> rfl

namespace Options

/-- Options that say the same about every setting are the same. -/
theorem eq_of_value_eq {options others : Options}
    (same : ∀ setting, options.value setting = others.value setting) : options = others := by
  have rebuilt : ∀ options : Options, ofValues options.value = options := fun _ => rfl
  rw [← rebuilt options, ← rebuilt others, funext same]

theorem Setting.name_inj {setting other : Setting} :
    setting.name = other.name ↔ setting = other := by
  cases setting <;> cases other <;> decide

/-! ## Sections with a null -/

/-- A section has one more field than another, wherever it stands: a setting that the other does not
have, with a null. -/
structure AddsNull (setting : Setting) (fields others : Fields) : Prop where
  absent : Datum.field? fields setting.name = none
  added : ∃ before after, fields = before ++ after ∧
    others = before ++ (.text setting.name, .null) :: after

section

variable {setting : Setting} {environment : Environment} {fields others : Fields}

theorem AddsNull.field?_self (adds : AddsNull setting fields others) :
    Datum.field? others setting.name = some .null := by
  obtain ⟨before, after, rfl, rfl⟩ := adds.added
  have inFront : Datum.field? before setting.name = none := by
    have absent := adds.absent
    simp only [Datum.field?, Datum.lookup?, Option.map_eq_none_iff, List.find?_append,
      Option.or_eq_none_iff] at absent ⊢
    exact absent.1
  rw [Datum.field?_append_cons, if_pos rfl, inFront, Option.none_or]

theorem AddsNull.field?_of_ne (adds : AddsNull setting fields others) {other : Setting}
    (different : other ≠ setting) :
    Datum.field? others other.name = Datum.field? fields other.name := by
  obtain ⟨before, after, rfl, rfl⟩ := adds.added
  rw [Datum.field?_append_cons,
    if_neg fun sameName => different (Setting.name_inj.mp sameName).symm]

/-- A null gives no setting but the class a value. -/
theorem AddsNull.fromSection?_eq (adds : AddsNull setting fields others) {other : Setting}
    (noClass : other ≠ setting ∨ setting ≠ .driverClass) :
    other.fromSection? others = other.fromSection? fields := by
  unfold Setting.fromSection?
  by_cases same : other = setting
  · subst same
    have notClass : other ≠ .driverClass := noClass.resolve_left (absurd rfl)
    rw [adds.field?_self, adds.absent]
    simp [notClass, Option.filter, Datum.isNull]
  · rw [adds.field?_of_ne same]

/-- A null wins nothing, unless it is the null of the class and no variable gives the class. -/
theorem AddsNull.winner?_eq_of_covered (adds : AddsNull setting fields others) {other : Setting}
    (covered : (other ≠ setting ∨ setting ≠ .driverClass) ∨
      other.fromVariable? environment ≠ none) :
    other.winner? environment others = other.winner? environment fields := by
  by_cases noClass : other ≠ setting ∨ setting ≠ .driverClass
  · have same : SameSources other environment environment others fields :=
      ⟨rfl, adds.fromSection?_eq noClass, rfl⟩
    exact same.winner?_eq
  · obtain ⟨value, set⟩ := Option.ne_none_iff_exists'.mp (covered.resolve_left noClass)
    simp only [not_or, not_not] at noClass
    obtain ⟨rfl, rfl⟩ := noClass
    simp only [Setting.winner?, set, Option.some_or]

theorem AddsNull.winner?_eq (adds : AddsNull setting fields others)
    (covered : setting ≠ .driverClass ∨ setting.fromVariable? environment ≠ none)
    (other : Setting) :
    other.winner? environment others = other.winner? environment fields := by
  apply adds.winner?_eq_of_covered
  rcases covered with notClass | set
  · exact Or.inl (Or.inr notClass)
  · by_cases same : other = setting
    · exact Or.inr (same ▸ set)
    · exact Or.inl (Or.inl same)

/-- The null of the class wins where no variable gives the class. -/
theorem AddsNull.winner?_driverClass (adds : AddsNull .driverClass fields others)
    (unset : Setting.fromVariable? environment .driverClass = none) :
    Setting.winner? environment fields .driverClass = none ∧
      Setting.winner? environment others .driverClass = some .null := by
  simp only [Setting.winner?, unset, Option.none_or, Setting.fromSection?, adds.absent,
    adds.field?_self]
  exact ⟨rfl, rfl⟩

/-- The text of a null, which as the name of a class names none. -/
def nullName : String := Datum.null.plain

theorem AddsNull.areWritable_iff (adds : AddsNull setting fields others) :
    AreWritable (Setting.winner? environment others) ↔
      AreWritable (Setting.winner? environment fields) := by
  refine forall_congr' fun other => imp_congr_right fun _ => ?_
  by_cases covered : (other ≠ setting ∨ setting ≠ .driverClass) ∨
      other.fromVariable? environment ≠ none
  · rw [adds.winner?_eq_of_covered covered]
  · simp only [not_or, not_not] at covered
    obtain ⟨⟨rfl, rfl⟩, unset⟩ := covered
    obtain ⟨nothing, nullWins⟩ := adds.winner?_driverClass unset
    rw [nothing, nullWins]
    simp [Datum.isWritable, Scalar.isWritable]

/-- The null of the class becomes its name, and all else is as without it. -/
theorem AddsNull.ofWinners_driverClass (adds : AddsNull .driverClass fields others)
    (unset : Setting.fromVariable? environment .driverClass = none) {options : Options}
    (made : ofWinners (Setting.winner? environment fields) = .ok options) :
    ofWinners (Setting.winner? environment others)
      = .ok { options with driverClass := .text nullName } := by
  rw [ofWinners_of_areWritable (adds.areWritable_iff.mpr (areWritable_of_ofWinners made))]
  refine congrArg Except.ok (eq_of_value_eq fun other => ?_)
  rw [value_ofValues]
  by_cases isClass : other = .driverClass
  · subst isClass
    rw [settled, (adds.winner?_driverClass unset).2]
    rfl
  · have same : other.winner? environment others = other.winner? environment fields :=
      adds.winner?_eq_of_covered (Or.inl (Or.inl isClass))
    rw [settled_congr same, ← value_of_ofWinners made]
    cases other <;> first | rfl | exact absurd rfl isClass

end

/-- Options whose class is the name of a null ask for no driver. -/
theorem driverConfig_of_nullName (options : Options) :
    { options with driverClass := .text nullName }.driverConfig
      = .error (.invalidConfig (.passedOn (Refusal.unknownClass nullName).message)
          { options with driverClass := .text nullName }.supplied) := by
  have unknown : DriverClass.read nullName = .error (.invalidConfig (.unknownClass nullName) []) :=
    rfl
  unfold driverConfig readClass
  simp only [Datum.write_text, ok_bind, unknown, explain, error_bind]
  rfl

/-! ## Null or absent -/

/-- A null that is added to a section changes nothing about a load, unless it is the null of the
class and no variable gives the class. Then the options name a class that there is not: the driver
that they ask for is refused, although nothing else in them is different. -/
theorem load_of_addsNull {loader : Yaml.Loader} {disk otherDisk : Disk} {environment : Environment}
    {named otherNamed : Option Path} {setting : Setting} {fields others : Fields}
    (isSection : IsSection loader disk named fields)
    (otherIsSection : IsSection loader otherDisk otherNamed others)
    (adds : AddsNull setting fields others) :
    let outcome := (load loader disk environment named).outcome
    let otherOutcome := (load loader otherDisk environment otherNamed).outcome
    (otherOutcome = outcome ↔
        setting ≠ .driverClass ∨ setting.fromVariable? environment ≠ none ∨
          ∀ options, outcome ≠ .ok options) ∧
      (setting = .driverClass → setting.fromVariable? environment = none →
        ∀ options, outcome = .ok options →
          ∃ other, otherOutcome = .ok other ∧
            other = { options with driverClass := .text nullName } ∧
            other.driverConfig
              = .error (.invalidConfig (.passedOn (Refusal.unknownClass nullName).message)
                  other.supplied) ∧
            (∀ machine, other.target machine = options.target machine) ∧
            other.pin = options.pin ∧ other.kitLayout = options.kitLayout) := by
  intro outcome otherOutcome
  have made : outcome = ofWinners (Setting.winner? environment fields) :=
    outcome_load_of_isSection isSection
  have otherMade : otherOutcome = ofWinners (Setting.winner? environment others) :=
    outcome_load_of_isSection otherIsSection
  have refused : setting = .driverClass → setting.fromVariable? environment = none →
      ∀ options, outcome = .ok options →
        otherOutcome = .ok { options with driverClass := .text nullName } := by
    rintro rfl unset options isOk
    rw [otherMade]
    exact adds.ofWinners_driverClass unset (made ▸ isOk)
  refine ⟨⟨fun same => ?_, ?_⟩, fun isClass unset options isOk => ?_⟩
  · by_contra affected
    simp only [not_or, not_not, not_forall] at affected
    obtain ⟨isClass, unset, options, isOk⟩ := affected
    have otherOk := refused isClass unset options isOk
    rw [same, isOk] at otherOk
    have classSame : options.driverClass = .text nullName :=
      congrArg Options.driverClass (Except.ok.inj otherOk)
    subst isClass
    have usualClass : options.value .driverClass = usual.value .driverClass := by
      rw [value_of_ofWinners (made ▸ isOk), settled, (adds.winner?_driverClass unset).1]
    have names : DriverClass.kmdf.name = nullName :=
      Scalar.text.inj (Datum.scalar.inj (usualClass.symm.trans classSame))
    exact absurd names (by decide)
  · intro unaffected
    rw [otherMade, made]
    by_cases covered : setting ≠ .driverClass ∨ setting.fromVariable? environment ≠ none
    · exact congrArg ofWinners (funext (adds.winner?_eq covered))
    · have failed : ∀ options, outcome ≠ .ok options := by
        rcases unaffected with notClass | set | failed
        · exact absurd (Or.inl notClass) covered
        · exact absurd (Or.inr set) covered
        · exact failed
      have unwritable : ¬AreWritable (Setting.winner? environment fields) := fun writable =>
        failed _ (made.trans (ofWinners_of_areWritable writable))
      rw [ofWinners_of_not_areWritable unwritable,
        ofWinners_of_not_areWritable (mt adds.areWritable_iff.mp unwritable)]
  · exact ⟨_, refused isClass unset options isOk, rfl, driverConfig_of_nullName options,
      fun _ => rfl, rfl, rfl⟩

/-- A blank line for the class: with a variable for the class it changes nothing, and without one
the driver is refused. -/
theorem load_of_addsNull_class :
    let loader := Yaml.Loader.ofLevels 8
    let first := "target_arch: arm64\n"
    let second := "driver_class:\ntarget_arch: arm64\n"
    let disk : Disk :=
      { Disk.empty with
        entries :=
          [(⟨["wdk.yaml"]⟩, .file first.toUTF8),
            (⟨["own.yaml"]⟩, .file second.toUTF8)] }
    let named := some (Path.ofText "own.yaml")
    let environment : Environment := [("WDK_DRIVER_CLASS", "WDM")]
    (load loader disk environment named).outcome = (load loader disk environment none).outcome ∧
      ∃ options other, (load loader disk [] none).outcome = .ok options ∧
        (load loader disk [] named).outcome = .ok other ∧
        options.driverConfig = .ok (.kmdf 33) ∧
        (∀ driver, other.driverConfig ≠ .ok driver) ∧
        ∀ machine, other.target machine = options.target machine := by
  intro loader first second disk named environment
  let firstOutline : Yaml.Outline := .map [("target_arch", .text "arm64")]
  let secondOutline : Yaml.Outline :=
    .map [("driver_class", .null), ("target_arch", .text "arm64")]
  have firstText : Text.decodeLines? first.toUTF8 = some first.toList := by decide +kernel
  have secondText : Text.decodeLines? second.toUTF8 = some second.toList := by decide +kernel
  have firstRead : loader.read first.toUTF8 = .ok firstOutline.datum :=
    Yaml.Loader.read_ofLevels_of_matches firstText (by decide +kernel)
  have secondRead : loader.read second.toUTF8 = .ok secondOutline.datum :=
    Yaml.Loader.read_ofLevels_of_matches secondText (by decide +kernel)
  have firstKnown : IsKnown [(.text "target_arch", .text "arm64")] := by
    intro key member
    exact ⟨.targetArch, List.mem_singleton.mp member⟩
  have secondKnown :
      IsKnown [(.text "driver_class", .null), (.text "target_arch", .text "arm64")] := by
    intro key member
    rcases List.mem_cons.mp member with isClass | isArch
    · exact ⟨.driverClass, isClass⟩
    · exact ⟨.targetArch, List.mem_singleton.mp isArch⟩
  have firstSection : IsSection loader disk none [(.text "target_arch", .text "arm64")] :=
    .inFile rfl (.written firstRead rfl firstKnown)
  have secondSection : IsSection loader disk named
      [(.text "driver_class", .null), (.text "target_arch", .text "arm64")] :=
    .inFile rfl (.written secondRead rfl secondKnown)
  have adds : AddsNull .driverClass [(.text "target_arch", .text "arm64")]
      [(.text "driver_class", .null), (.text "target_arch", .text "arm64")] :=
    ⟨rfl, [], _, rfl, rfl⟩
  refine ⟨(load_of_addsNull firstSection secondSection adds).1.mpr (Or.inr (Or.inl nofun)), ?_⟩
  let options : Options := { usual with targetArch := .text "arm64" }
  have loaded : (load loader disk [] none).outcome = .ok options := by
    rw [outcome_load_of_isSection firstSection]
    rfl
  have asksForDriver : options.driverConfig = .ok (.kmdf 33) := eq_ok_of_toOption (by decide)
  obtain ⟨other, otherLoaded, _, refused, sameTarget, _, _⟩ :=
    (load_of_addsNull firstSection secondSection adds).2 rfl rfl options loaded
  refine ⟨options, other, loaded, otherLoaded, asksForDriver, fun driver accepted => ?_, sameTarget⟩
  cases refused.symm.trans accepted

end Options

end DriverKit
