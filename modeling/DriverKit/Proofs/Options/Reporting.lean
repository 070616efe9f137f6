import DriverKit.Proofs.Options.Acceptance

/-!
# What malformed texts end with

Options that are texts make a driver configuration, an architecture and a pinned version, or are
refused as a configuration that makes no sense, but for two kinds of texts: framework versions whose
numerals stand for no number, and pinned versions with a numeral that is too long. These are not
refused, and what they end with is no failure of a configuration.
-/

namespace DriverKit

open DriverKit.Text

/-! ## Failures of a configuration -/

/-- A failure says that a configuration makes no sense. -/
inductive Failure.IsConfiguration : Failure → Prop where
  | config (refusal : Refusal) (supplied : Supplied) :
      IsConfiguration (.invalidConfig refusal supplied)
  | options (refusal : Refusal) (supplied : Supplied) :
      IsConfiguration (.invalidOptions refusal supplied)

/-- An outcome is neither a value nor a configuration that makes no sense, but another failure. -/
def EndsOtherwise {α : Type} (outcome : Except Failure α) (failure : Failure) : Prop :=
  outcome = .error failure ∧ ¬failure.IsConfiguration

/-- A configuration makes no sense, or a misuse has not been caught. -/
inductive Failure.IsUncaught : Failure → Prop where
  | caught {failure : Failure} (isConfiguration : failure.IsConfiguration) : IsUncaught failure
  | misuse (cause : Misuse) : IsUncaught (.misuse cause)

/-- Where nothing but misuses is left uncaught, an outcome that ends otherwise is a misuse. -/
theorem endsOtherwise_iff {α : Type} {outcome : Except Failure α}
    (fails : FailsOnly Failure.IsUncaught outcome) {failure : Failure} :
    EndsOtherwise outcome failure ↔
      ∃ cause, failure = .misuse cause ∧ outcome = .error (.misuse cause) := by
  constructor
  · rintro ⟨failed, other⟩
    cases fails failure failed with
    | caught isConfiguration => exact absurd isConfiguration other
    | misuse cause => exact ⟨cause, rfl, failed⟩
  · rintro ⟨cause, rfl, failed⟩
    exact ⟨failed, nofun⟩

theorem Failure.IsRefusal.isUncaught {failure : Failure} (isRefusal : failure.IsRefusal) :
    failure.IsUncaught := by
  cases isRefusal with
  | config refusal supplied => exact .caught (.config refusal supplied)
  | overlong => exact .misuse .overlongNumeral
  | malformed => exact .misuse .malformedNumeral

theorem DriverClass.read_ne_misuse (text : String) (cause : Misuse) :
    read text ≠ .error (.misuse cause) := by
  unfold read
  split <;> nofun

theorem DriverConfig.ofParts_ne_misuse (driverClass : DriverClass)
    (version : Option FrameworkVersion) (cause : Misuse) :
    ofParts driverClass version ≠ .error (.misuse cause) := by
  unfold ofParts
  split
  · nofun
  · nofun
  · nofun
  · split <;> nofun
  · split <;> nofun

theorem FrameworkVersion.endsOtherwise_read_iff {text : String} {failure : Failure} :
    EndsOtherwise (read text) failure ↔
      failure = .misuse .malformedNumeral ∧ IsUnreadable text := by
  have fails : FailsOnly Failure.IsUncaught (read text) :=
    (failsOnly_ofParts text _).mono fun _ => Failure.IsRefusal.isUncaught
  rw [endsOtherwise_iff fails]
  simp only [read_eq_misuse_iff]
  constructor
  · rintro ⟨cause, rfl, rfl, unreadable⟩
    exact ⟨rfl, unreadable⟩
  · rintro ⟨rfl, unreadable⟩
    exact ⟨_, rfl, rfl, unreadable⟩

namespace Options

/-! ## Driver configurations -/

theorem explain_eq_misuse_iff {α : Type} {options : Options} {outcome : Except Failure α}
    {cause : Misuse} :
    options.explain outcome = .error (.misuse cause) ↔ outcome = .error (.misuse cause) := by
  unfold explain
  split
  · simp
  · simp
  · rfl

/-- A misuse comes from a class that cannot be written or from the version of the class. -/
theorem driverConfig_eq_misuse_iff {options : Options} {cause : Misuse} :
    options.driverConfig = .error (.misuse cause) ↔
      options.readClass = .error (.misuse cause) ∨
        ∃ driverClass, options.readClass = .ok driverClass ∧ options.NoForeign driverClass ∧
          options.askedVersion driverClass = .error (.misuse cause) := by
  have ofVersion : ∀ driverClass : DriverClass,
      options.explain (options.askedVersion driverClass >>= DriverConfig.ofParts driverClass)
          = .error (.misuse cause) ↔
        options.askedVersion driverClass = .error (.misuse cause) := by
    intro driverClass
    rw [explain_eq_misuse_iff, bind_eq_error_iff]
    refine or_iff_left ?_
    rintro ⟨version, _, failed⟩
    exact DriverConfig.ofParts_ne_misuse driverClass version cause failed
  rw [driverConfig_eq, bind_eq_error_iff, explain_eq_misuse_iff]
  simp only [explain_eq_ok_iff]
  refine or_congr_right (exists_congr fun driverClass => and_congr_right fun _ => ?_)
  rcases options.refuseForeign_cases driverClass with
    ⟨noForeign, notRefused⟩ | ⟨foreign, _, refused⟩
  · rw [notRefused, ok_bind, ofVersion]
    exact (and_iff_right noForeign).symm
  · rw [refused, error_bind]
    exact iff_of_false nofun fun asked => foreign asked.1

namespace Texts

/-- The texts ask for a version of the class that they name, but its numerals stand for no
number. -/
structure AsksUnreadable (texts : Texts) (framework : DriverClass) (text : String) : Prop where
  named : upperPlain (trim texts.driverClass) = framework.name
  noForeign : ∀ other, other ≠ framework → texts.version other = none
  asked : texts.version framework = some text
  unreadable : FrameworkVersion.IsUnreadable text

/-- The texts pin a version with a numeral that is too long. -/
def PinsOverlong (texts : Texts) : Prop :=
  ∃ text, texts.pinnedVersion = some text ∧ KitVersion.IsOverlong text

variable {texts : Texts} {layout : Datum} {failure : Failure}

theorem askedVersion_eq_misuse_iff {framework : DriverClass} {cause : Misuse} :
    (texts.options layout).askedVersion framework = .error (.misuse cause) ↔
      cause = .malformedNumeral ∧
        ∃ text, texts.version framework = some text ∧ FrameworkVersion.IsUnreadable text := by
  by_cases uses : framework = .wdm
  · subst uses
    exact iff_of_false nofun fun ⟨_, _, given, _⟩ => Option.some_ne_none _ given.symm
  · rw [askedVersion_eq _ uses, map_eq_error_iff, version_options, frameworkVersion_value]
    cases texts.version framework with
    | none => exact iff_of_false nofun fun ⟨_, _, given, _⟩ => Option.some_ne_none _ given.symm
    | some text => simp [FrameworkVersion.read_eq_misuse_iff]

theorem endsOtherwise_driverConfig_iff :
    EndsOtherwise (texts.options layout).driverConfig failure ↔
      failure = .misuse .malformedNumeral ∧
        ∃ framework text, texts.AsksUnreadable framework text := by
  have fails : FailsOnly Failure.IsUncaught (texts.options layout).driverConfig := by
    intro failure failed
    cases (texts.options layout).failsOnly_isExplained_driverConfig failure failed with
    | config refusal => exact .caught (.config refusal _)
    | misuse cause => exact .misuse cause
  rw [endsOtherwise_iff fails]
  simp only [driverConfig_eq_misuse_iff, readClass_options, DriverClass.read_ne_misuse,
    false_or, DriverClass.read_eq_ok_iff, noForeign_options_iff, askedVersion_eq_misuse_iff]
  constructor
  · rintro ⟨cause, rfl, framework, named, noForeign, rfl, text, asked, unreadable⟩
    exact ⟨rfl, framework, text, named, noForeign, asked, unreadable⟩
  · rintro ⟨rfl, framework, text, asks⟩
    exact ⟨_, rfl, framework, asks.named, asks.noForeign, rfl, text, asks.asked, asks.unreadable⟩

/-! ## Architectures and pinned versions -/

theorem exists_write_value (text : Option String) :
    ∃ written, (value text).write = .ok written := by
  cases text with
  | none => exact ⟨_, rfl⟩
  | some text => exact ⟨_, rfl⟩

theorem not_endsOtherwise_target (texts : Texts) (layout : Datum) (machine : Machine)
    (failure : Failure) :
    ¬EndsOtherwise ((texts.options layout).target machine).outcome failure := by
  have isRead : ∃ text, ((texts.options layout).target machine).outcome = Arch.read text := by
    obtain ⟨written, isWritten⟩ := exists_write_value texts.targetArch
    have sameArch : (texts.options layout).targetArch = value texts.targetArch := rfl
    unfold target
    split
    · exact ⟨written, by rw [Traced.outcome_silent, sameArch, isWritten, ok_bind]⟩
    · refine ⟨machine.arch, ?_⟩
      rw [Traced.outcome_bind, Traced.outcome_say, ok_bind, Traced.outcome_silent]
  obtain ⟨text, found⟩ := isRead
  rw [found]
  rintro ⟨failed, other⟩
  rcases Arch.read_cases text with ⟨arch, isOk⟩ | refused
  · cases isOk.symm.trans failed
  · cases refused.symm.trans failed
    exact other (.config _ _)

theorem isPresent_value_iff {text : Option String} :
    (value text).isPresent = true ↔ ∃ spelled, text = some spelled ∧ spelled ≠ "" := by
  have ofText : ∀ spelled, (Datum.text spelled).isPresent = (spelled != "") := fun _ => rfl
  cases text with
  | none => exact iff_of_false nofun fun ⟨_, given, _⟩ => Option.some_ne_none _ given.symm
  | some spelled => simp [value, ofText]

theorem endsOtherwise_pin_iff :
    EndsOtherwise (texts.options layout).pin failure ↔
      failure = .misuse .overlongNumeral ∧ texts.PinsOverlong := by
  have samePin : (texts.options layout).pinnedVersion = value texts.pinnedVersion := rfl
  unfold pin
  split
  · rename_i present
    obtain ⟨text, given, _⟩ := isPresent_value_iff.mp (samePin ▸ present)
    have asked :
        KitVersion.ofDatum (texts.options layout).pinnedVersion = KitVersion.read text := by
      rw [samePin, given, value, Option.map_some, Option.getD_some, KitVersion.ofDatum_text]
    have pins_iff : texts.PinsOverlong ↔ KitVersion.IsOverlong text := by
      simp [PinsOverlong, given]
    rw [asked, pins_iff]
    rcases KitVersion.read_cases text with
      ⟨readable, version, isOk⟩ | ⟨readable, kept, refused⟩ | ⟨overlong, failed⟩
    · rw [isOk]
      refine iff_of_false ?_ fun claimed => readable claimed.2
      rintro ⟨⟨⟩, _⟩
    · rw [refused]
      refine iff_of_false ?_ fun claimed => readable claimed.2
      rintro ⟨same, other⟩
      cases same
      exact other (.options _ _)
    · rw [failed]
      constructor
      · rintro ⟨same, -⟩
        cases same
        exact ⟨rfl, overlong⟩
      · rintro ⟨rfl, -⟩
        exact ⟨rfl, by rintro ⟨⟩⟩
  · rename_i absent
    refine iff_of_false (by rintro ⟨⟨⟩, _⟩) ?_
    rintro ⟨-, text, given, overlong⟩
    have empty : text = "" := by
      by_contra notEmpty
      exact absent (samePin ▸ isPresent_value_iff.mpr ⟨text, given, notEmpty⟩)
    subst empty
    exact absurd overlong.enough (by decide)

end Texts

/-! ## What is not reported -/

/-- Whatever the texts are, a driver configuration, an architecture and a pinned version are made or
reported as a configuration that makes no sense, except for exactly these: the version that is asked
for has the form of one but its numerals stand for no number, or the pinned one has a numeral that
is too long. -/
theorem reported_unless_unreadable (texts : Texts) (layout : Datum) (machine : Machine)
    (failure : Failure) :
    let options := texts.options layout
    (EndsOtherwise options.driverConfig failure ↔ failure = .misuse .malformedNumeral ∧
        ∃ framework text, texts.AsksUnreadable framework text) ∧
      ¬EndsOtherwise (options.target machine).outcome failure ∧
      (EndsOtherwise options.pin failure ↔
        failure = .misuse .overlongNumeral ∧ texts.PinsOverlong) ∧
      ∀ text, EndsOtherwise (FrameworkVersion.read text) failure ↔
        failure = .misuse .malformedNumeral ∧ FrameworkVersion.IsUnreadable text :=
  ⟨Texts.endsOtherwise_driverConfig_iff, texts.not_endsOtherwise_target layout machine failure,
    Texts.endsOtherwise_pin_iff, fun _ => FrameworkVersion.endsOtherwise_read_iff⟩

/-- A version with an information separator next to its dot, and an architecture that does not
exist. -/
theorem reported_unless_unreadable_separator :
    let machine : Machine := ⟨"windows", "x64", "10.0"⟩
    let options := Texts.options ⟨"kmdf", some "1\x1c.33", none, some "mips", none⟩ .null
    EndsOtherwise options.driverConfig (.misuse .malformedNumeral) ∧
      ¬EndsOtherwise (options.target machine).outcome (.misuse .malformedNumeral) ∧
        ¬EndsOtherwise options.pin (.misuse .malformedNumeral) := by
  intro machine options
  let texts : Texts := ⟨"kmdf", some "1\x1c.33", none, some "mips", none⟩
  have unreadable : FrameworkVersion.IsUnreadable "1\x1c.33" :=
    ⟨['1', '\x1c'], ['3', '3'], ⟨by decide, by decide, by decide⟩,
      Or.inl (.separated (List.mem_cons_of_mem '1' List.mem_cons_self) (by decide))⟩
  have noForeign : ∀ other, other ≠ .kmdf → texts.version other = none := by
    intro other different
    cases other with
    | kmdf => exact absurd rfl different
    | umdf => rfl
    | wdm => rfl
  have asks : texts.AsksUnreadable .kmdf "1\x1c.33" := ⟨by decide, noForeign, rfl, unreadable⟩
  obtain ⟨ofDriver, ofTarget, ofPin, _⟩ :=
    reported_unless_unreadable texts .null machine (.misuse .malformedNumeral)
  exact ⟨ofDriver.mpr ⟨rfl, .kmdf, _, asks⟩, ofTarget, fun ends => nomatch (ofPin.mp ends).1⟩

end Options

end DriverKit
