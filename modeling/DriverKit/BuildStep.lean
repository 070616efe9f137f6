import DriverKit.Cache.File
import DriverKit.Directive
import DriverKit.Discovery.Locator
import DriverKit.Options.Basic
import DriverKit.Resolution
import DriverKit.Verification

/-!
# Build steps

One build step from its options to its directives: the options are checked, kits are found, a
configuration is resolved and verified, kept in the cache, and only then told to the orchestrator.
A step that fails tells it nothing.
-/

namespace DriverKit

/-- What a build step is run with. -/
structure BuildStep where
  options : Options
  outDir : Path
  environment : Environment
  store : Store
  /-- The standard locations of kits. -/
  standard : List Path
  machine : Machine
  /-- Whether the directories of the configuration must be there. -/
  verify : Bool
  /-- What the host says about the parts of values that templates ask for. -/
  parts : Template.Parts

/-- What a build step has made. -/
structure Configured where
  config : BuildConfig
  directives : List Directive
  cacheFile : Path
deriving Repr

/-- What a build step leaves behind. -/
structure BuildOutcome where
  result : Traced Configured
  /-- What the orchestrator has been told. -/
  stream : String
  disk : Disk

namespace BuildStep

def surroundings (step : BuildStep) (disk : Disk) : Surroundings :=
  ⟨disk, step.environment, step.store⟩

/-- The configuration of a build step. The options are checked before the host is looked at. -/
def resolve (step : BuildStep) (disk : Disk) : Traced BuildConfig := do
  let layout ← step.options.kitLayout step.parts
  let driver ← step.options.driverConfig
  let arch ← step.options.target step.machine
  let pin ← step.options.pin
  let (found, locator) := (Locator.ofStandard step.standard).discover (step.surroundings disk)
  let installations ← found
  let config ← Resolution.resolve layout installations driver arch pin locator.consulted
  if step.verify then config.verify disk else return config

def plan (step : BuildStep) (disk : Disk) : Traced (BuildConfig × List Directive) := do
  let config ← step.resolve disk
  let directives := Directive.emit config
  Traced.say .debug .directives
    ("Emitting " ++ Nat.repr directives.length ++ " directives for " ++ config.key.text)
  return (config, directives)

def configure (step : BuildStep) (disk : Disk) (faults : Disk.ReplacementFaults) : BuildOutcome :=
  let planned := step.plan disk
  match planned.outcome with
  | .error failure => ⟨⟨.error failure, planned.log⟩, "", disk⟩
  | .ok (config, directives) =>
      let (saved, changed) :=
        Cache.save disk (Cache.file step.outDir Cache.usualName) config faults
      { result := do
          let _ ← planned
          let cacheFile ← saved
          Traced.say .info .build
            ("Configured " ++ config.key.text ++ " (" ++ Nat.repr directives.length
              ++ " directives)")
          return ⟨config, directives, cacheFile⟩
        stream :=
          match saved.outcome with
          | .ok _ => Directive.written directives
          | .error _ => ""
        disk := changed }

end BuildStep

end DriverKit
