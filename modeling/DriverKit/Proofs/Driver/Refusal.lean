import DriverKit.Driver.Reading
import DriverKit.Proofs.Outcome

/-!
# Refusals

A class, an architecture or a framework version that makes no sense is refused as a configuration,
except for numerals that stand for no number. No reader of these fails in any other way.
-/

namespace DriverKit

/-- A configuration is refused, or a numeral stands for no number. -/
inductive Failure.IsRefusal : Failure → Prop where
  | config (refusal : Refusal) (supplied : Supplied) : IsRefusal (.invalidConfig refusal supplied)
  | overlong : IsRefusal (.misuse .overlongNumeral)
  | malformed : IsRefusal (.misuse .malformedNumeral)

open Failure (IsRefusal)

theorem Datum.failsOnly_write (value : Datum) : FailsOnly IsRefusal value.write := by
  unfold Datum.write
  split
  · exact .ok _
  · exact .error .overlong

theorem DriverClass.failsOnly_read (text : String) :
    FailsOnly IsRefusal (DriverClass.read text) := by
  unfold DriverClass.read
  split
  · exact .ok _
  · exact .error (.config _ _)

theorem Arch.failsOnly_read (text : String) : FailsOnly IsRefusal (Arch.read text) := by
  unfold Arch.read
  split
  · exact .ok _
  · exact .error (.config _ _)

namespace FrameworkVersion

theorem failsOnly_readPart (part : List Char) : FailsOnly IsRefusal (readPart part) := by
  unfold readPart
  split
  · exact .ok _
  · exact .error .malformed

theorem failsOnly_ofParts (shown : String) (parts : List (List Char)) :
    FailsOnly IsRefusal (ofParts shown parts) := by
  unfold ofParts
  split
  · split
    · exact (failsOnly_readPart _).bind fun _ => (failsOnly_readPart _).bind fun _ => .ok _
    · exact .error (.config _ _)
  · exact .error (.config _ _)

theorem failsOnly_ofDatum (value : Datum) : FailsOnly IsRefusal (ofDatum value) := by
  have ofTwo : ∀ major minor : Datum,
      FailsOnly IsRefusal (do
        let parts := [(← major.write).toList, (← minor.write).toList]
        ofParts (← value.write) parts) :=
    fun major minor =>
      major.failsOnly_write.bind fun _ => minor.failsOnly_write.bind fun _ =>
        value.failsOnly_write.bind fun _ => failsOnly_ofParts _ _
  unfold ofDatum
  split
  · exact ofTwo _ _
  · exact ofTwo _ _
  · exact value.failsOnly_write.bind fun _ => failsOnly_ofParts _ _

end FrameworkVersion

theorem DriverConfig.failsOnly_ofParts (driverClass : DriverClass)
    (version : Option FrameworkVersion) :
    FailsOnly IsRefusal (DriverConfig.ofParts driverClass version) := by
  unfold DriverConfig.ofParts
  split
  · exact .ok _
  · exact .error (.config _ _)
  · exact .error (.config _ _)
  · split
    · exact .ok _
    · exact .error (.config _ _)
  · split
    · exact .ok _
    · exact .error (.config _ _)

end DriverKit
