import DriverKit.Options.Basic
import DriverKit.Proofs.Driver
import DriverKit.Proofs.Driver.Refusal

/-!
# Driver configurations from options

The options ask for a class and, unless it is the bare kernel model, for a framework version or for
none, which stands for the usual one. What they are checked to is the configuration of just these.
-/

namespace DriverKit.Options

theorem explain_eq_ok_iff {α : Type} {options : Options} {outcome : Except Failure α} {value : α} :
    options.explain outcome = .ok value ↔ outcome = .ok value := by
  unfold explain
  split
  · simp
  · simp
  · rfl

/-- The framework version that the options ask for, if the class has one. -/
def askedVersion (options : Options) : DriverClass → Except Failure (Option FrameworkVersion)
  | .kmdf => some <$> frameworkVersion .kmdf options.kmdfVersion
  | .umdf => some <$> frameworkVersion .umdf options.umdfVersion
  | .wdm => .ok none

theorem usual_or_read_of_frameworkVersion {driverClass : DriverClass} {version : Datum}
    {number : FrameworkVersion} (accepted : frameworkVersion driverClass version = .ok number) :
    number.minor = DriverConfig.defaultMinor ∨
      ∃ value, FrameworkVersion.ofDatum value = .ok number := by
  unfold frameworkVersion at accepted
  split at accepted
  · cases accepted
    exact Or.inl rfl
  · exact Or.inr ⟨version, accepted⟩

theorem usual_or_read_of_askedVersion {options : Options} {driverClass : DriverClass}
    {number : FrameworkVersion} (asked : options.askedVersion driverClass = .ok (some number)) :
    number.minor = DriverConfig.defaultMinor ∨
      ∃ value, FrameworkVersion.ofDatum value = .ok number := by
  cases driverClass with
  | wdm => cases asked
  | kmdf =>
      obtain ⟨_, found, same⟩ := map_eq_ok_iff.mp asked
      cases same
      exact usual_or_read_of_frameworkVersion found
  | umdf =>
      obtain ⟨_, found, same⟩ := map_eq_ok_iff.mp asked
      cases same
      exact usual_or_read_of_frameworkVersion found

/-- What the options are checked to: the configuration of the class that they name, with the version
that they ask for. -/
theorem asked_of_driverConfig {options : Options} {driver : DriverConfig}
    (accepted : options.driverConfig = .ok driver) :
    options.readClass = .ok driver.driverClass ∧
      options.askedVersion driver.driverClass = .ok driver.framework? := by
  obtain ⟨driverClass, classRead, afterClass⟩ := bind_eq_ok_iff.mp accepted
  have named := explain_eq_ok_iff.mp classRead
  have ofVersion :
      ∀ {framework : DriverClass} {version : Datum},
        options.explain (do
            DriverConfig.ofParts framework (some (← frameworkVersion framework version)))
          = .ok driver →
        driver.driverClass = framework ∧
          some <$> frameworkVersion framework version = .ok driver.framework? := by
    intro framework version explained
    obtain ⟨number, found, made⟩ := bind_eq_ok_iff.mp (explain_eq_ok_iff.mp explained)
    obtain ⟨sameClass, sameVersion⟩ := DriverConfig.ofParts_eq_ok_iff.mp made
    exact ⟨sameClass, map_eq_ok_iff.mpr ⟨number, found, sameVersion.symm⟩⟩
  cases driverClass with
  | wdm =>
      obtain ⟨_, _, afterKmdf⟩ := bind_eq_ok_iff.mp afterClass
      obtain ⟨_, _, made⟩ := bind_eq_ok_iff.mp afterKmdf
      cases made
      exact ⟨named, rfl⟩
  | kmdf =>
      obtain ⟨_, _, explained⟩ := bind_eq_ok_iff.mp afterClass
      obtain ⟨sameClass, asked⟩ := ofVersion explained
      rw [sameClass]
      exact ⟨named, asked⟩
  | umdf =>
      obtain ⟨_, _, explained⟩ := bind_eq_ok_iff.mp afterClass
      obtain ⟨sameClass, asked⟩ := ofVersion explained
      rw [sameClass]
      exact ⟨named, asked⟩

/-! ## Refused options -/

open Failure (IsRefusal)

theorem failsOnly_explain {α : Type} {outcome : Except Failure α} (options : Options)
    (fails : FailsOnly IsRefusal outcome) : FailsOnly IsRefusal (options.explain outcome) := by
  unfold explain
  split
  · exact .error (.config _ _)
  · exact .error (.config _ _)
  · exact fails

theorem failsOnly_refuseVersion (options : Options) (name : String) (driverClass : DriverClass)
    (version : Datum) : FailsOnly IsRefusal (options.refuseVersion name driverClass version) := by
  unfold refuseVersion
  split
  · exact .ok ()
  · exact .error (.config _ _)

theorem failsOnly_frameworkVersion (driverClass : DriverClass) (version : Datum) :
    FailsOnly IsRefusal (frameworkVersion driverClass version) := by
  unfold frameworkVersion
  split
  · exact .ok _
  · exact FrameworkVersion.failsOnly_ofDatum version

theorem failsOnly_driverConfig (options : Options) : FailsOnly IsRefusal options.driverConfig := by
  have readsClass : FailsOnly IsRefusal options.readClass :=
    options.driverClass.failsOnly_write.bind DriverClass.failsOnly_read
  have ofVersion : ∀ (framework : DriverClass) (version : Datum),
      FailsOnly IsRefusal (options.explain do
        DriverConfig.ofParts framework (some (← frameworkVersion framework version))) :=
    fun framework version => options.failsOnly_explain <|
      (failsOnly_frameworkVersion framework version).bind fun _ =>
        DriverConfig.failsOnly_ofParts _ _
  refine (options.failsOnly_explain readsClass).bind fun driverClass => ?_
  cases driverClass with
  | wdm =>
      exact (options.failsOnly_refuseVersion _ _ _).bind fun _ =>
        (options.failsOnly_refuseVersion _ _ _).bind fun _ => .ok _
  | kmdf => exact (options.failsOnly_refuseVersion _ _ _).bind fun _ => ofVersion _ _
  | umdf => exact (options.failsOnly_refuseVersion _ _ _).bind fun _ => ofVersion _ _

theorem failsOnly_target (options : Options) (machine : Machine) :
    FailsOnly IsRefusal (options.target machine).outcome := by
  unfold target
  split
  · exact options.targetArch.failsOnly_write.bind Arch.failsOnly_read
  · rw [Traced.outcome_bind, Traced.outcome_say, ok_bind, Traced.outcome_silent]
    exact Arch.failsOnly_read machine.arch

end DriverKit.Options
