import DriverKit.Proofs.Outcome
import DriverKit.Resolution

/-!
# Templates that cannot be expanded

Once an installation is selected, only the templates of the layout can keep a configuration from
being made. A template that cannot be expanded is a misuse of values, and never one of the failures
that a build step reports as its own.
-/

namespace DriverKit

/-- A value was used in a way that it does not allow. -/
inductive Failure.IsMisuse : Failure → Prop where
  | misuse (cause : Misuse) : IsMisuse (.misuse cause)

open Failure (IsMisuse)

theorem failsOnly_mapError_misuse {α : Type} (outcome : Except Misuse α) :
    FailsOnly IsMisuse (outcome.mapError .misuse) := by
  cases outcome with
  | error cause => exact .error (.misuse cause)
  | ok value => exact .ok value

theorem Tier.failsOnly_expand (tier : Tier) (host : Template.Parts) (root : Path)
    (version : KitVersion) (driver : DriverConfig) (arch : Option Arch) :
    FailsOnly IsMisuse (tier.expand host root version driver arch) :=
  ((failsOnly_mapError_misuse _).bind fun _ => .ok _).bind fun _ => .ok _

theorem Resolution.failsOnly_configure (layout : KitLayout) (installation : Installation)
    (driver : DriverConfig) (arch : Arch) (consulted : List Path) :
    FailsOnly IsMisuse (Resolution.configure layout installation driver arch consulted) := by
  have headers : FailsOnly IsMisuse
      (layout.includeDirs installation.root installation.version driver) :=
    FailsOnly.mapM (fun tier => tier.failsOnly_expand _ _ _ _ _) _
  have libraries : FailsOnly IsMisuse
      (layout.libDirs installation.root installation.version driver arch) :=
    FailsOnly.mapM (fun tier => tier.failsOnly_expand _ _ _ _ _) _
  exact headers.bind fun _ => libraries.bind fun _ => .ok _

end DriverKit
