import DriverKit.Main
import DriverKit.Proofs.Cache.Register
import DriverKit.Proofs.CommandLine.Run
import DriverKit.Proofs.Installation
import DriverKit.Proofs.BuildStep.Triggers
import DriverKit.Proofs.Cache.Loading
import DriverKit.Proofs.Directive
import DriverKit.Proofs.Bindings
import DriverKit.Proofs.KitLayout
import DriverKit.Proofs.Resolution.Framework
import DriverKit.Proofs.Discovery.Growth
import DriverKit.Proofs.Discovery.SkippedRoots
import DriverKit.Proofs.BuildStep.Stages
import DriverKit.Proofs.BuildStep.Repetition
import DriverKit.Proofs.Disk.Standard
import DriverKit.Proofs.Options.Loading
import DriverKit.Proofs.Resolution.Layouts
import DriverKit.Proofs.Resolution.Precedence
import DriverKit.Proofs.KitLayout.Containment
import DriverKit.Proofs.Directive.Groups
import DriverKit.Proofs.Bindings.Arguments
import DriverKit.Proofs.Discovery.Sequence
import DriverKit.Proofs.Options.Absence
import DriverKit.Proofs.Options.Reporting
import DriverKit.Proofs.Options.Numerals
import DriverKit.Proofs.KitLayout.Separation
import DriverKit.Proofs.KitLayout.Overrides
import DriverKit.Proofs.Cache.Items
import DriverKit.Proofs.Discovery.Sources
import DriverKit.Proofs.KitVersion.Grammar
import DriverKit.Proofs.Disk.Atomicity
import DriverKit.Proofs.Bindings.Failures
import DriverKit.Proofs.BuildStep.Verification
import DriverKit.Proofs.Directive.Resolved
