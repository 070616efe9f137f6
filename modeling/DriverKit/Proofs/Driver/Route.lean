import DriverKit.Proofs.Cache.Document
import DriverKit.Proofs.Options

/-!
# Where driver configurations come from

A driver configuration is made of a class and a framework version that are given, or of the numbers
of the version alone, is checked from the options of a build, or is read from the document of a
cache. Whichever it is, the configuration has the class and the framework version that were asked
for, and nothing is made of a class and a version that do not go together.
-/

namespace DriverKit

/-- Where a driver configuration comes from. -/
inductive Route where
  | given (driverClass : DriverClass ⊕ Datum) (version : FrameworkVersion ⊕ Datum)
  | numbered (framework : DriverClass) (major minor : Option Int)
  | checked (options : Options)
  | read (document : Datum)

namespace Route

/-- A field of a document, which must be a map. -/
def field (document : Datum) (name : String) : Except Failure Datum :=
  match document.opened with
  | .map fields => Cache.required fields name
  | _ => .error (.misuse .notMapping)

/-- The configuration that comes of a route. -/
def driver : Route → Except Failure DriverConfig
  | .given driverClass version => DriverConfig.ofGiven driverClass version
  | .numbered framework major minor => DriverConfig.ofNumbers framework major minor
  | .checked options => options.driverConfig
  | .read document => (fun config => config.key.driver) <$> Cache.decode document

/-- The class that is asked for. -/
def driverClass : Route → Except Failure DriverClass
  | .given driverClass _ => DriverClass.ofGiven driverClass
  | .numbered framework _ _ => .ok framework
  | .checked options => options.readClass
  | .read document => do DriverClass.ofGiven (.inr (← field document "driver_class"))

/-- The framework version that is asked for. -/
def version : Route → Except Failure (Option FrameworkVersion)
  | .given _ version => FrameworkVersion.ofGiven version
  | .numbered framework major minor =>
      .ok (some
        ⟨major.getD framework.frameworkMajor, minor.getD DriverConfig.defaultMinor⟩)
  | .checked options => do options.askedVersion (← options.readClass)
  | .read document => do FrameworkVersion.ofGiven (.inr (← field document "framework_version"))

theorem asked_of_decode {document : Datum} {config : BuildConfig}
    (decoded : Cache.decode document = .ok config) :
    driverClass (.read document) = .ok config.key.driver.driverClass ∧
      version (.read document) = .ok config.key.driver.framework? := by
  obtain ⟨fields, opened, keyRead, _⟩ := Cache.exists_of_decode decoded
  obtain ⟨_, className, framework, classField, frameworkField, made⟩ :=
    Cache.exists_of_readKey keyRead
  rw [← DriverConfig.ofGiven_inr] at made
  obtain ⟨classGiven, versionGiven⟩ := DriverConfig.ofGiven_eq_ok_iff.mp made
  have classFound : field document "driver_class" = .ok className := by
    rw [field, opened]
    exact classField
  have versionFound : field document "framework_version" = .ok framework := by
    rw [field, opened]
    exact frameworkField
  exact
    ⟨bind_eq_ok_iff.mpr ⟨className, classFound, classGiven⟩,
      bind_eq_ok_iff.mpr ⟨framework, versionFound, versionGiven⟩⟩

/-- A configuration that comes of a route has the class and the version that were asked for. -/
theorem asked_of_driver {route : Route} {driver : DriverConfig}
    (made : route.driver = .ok driver) :
    route.driverClass = .ok driver.driverClass ∧ route.version = .ok driver.framework? := by
  cases route with
  | given className framework => exact DriverConfig.ofGiven_eq_ok_iff.mp made
  | numbered framework major minor =>
      obtain ⟨sameClass, sameVersion⟩ := DriverConfig.ofParts_eq_ok_iff.mp made
      exact ⟨congrArg Except.ok sameClass.symm, congrArg Except.ok sameVersion.symm⟩
  | checked options =>
      obtain ⟨classRead, versionRead⟩ := Options.asked_of_driverConfig made
      exact ⟨classRead, bind_eq_ok_iff.mpr ⟨driver.driverClass, classRead, versionRead⟩⟩
  | read document =>
      obtain ⟨config, decoded, rfl⟩ := map_eq_ok_iff.mp made
      exact asked_of_decode decoded

end Route

end DriverKit
