import DriverKit.Arch
import DriverKit.Driver.Config
import DriverKit.KitVersion.Basic
import DriverKit.Misuse
import DriverKit.Path

/-!
# Failures

Everything that can end a build step early: no kit, an unreadable kit, a configuration that makes
no sense, a generator or a cache that fails. Every failure is a cause with what is needed to
explain it; the wording is made here and nowhere else. Faults of the host and misuse of values are
failures too, but they are not reported as the build step's own.
-/

namespace DriverKit

/-! ## Faults of the host -/

/-- What the host answers when an operation on files cannot be carried out. -/
inductive HostFault where
  | missing (path : String)
  | present (path : String)
  | notDirectory (path : String)
  | isDirectory (path : String)
  /-- A name on the way, or the path as a whole, has too many bytes. -/
  | overlong (path : String)
  /-- A file was to take the place of a directory. -/
  | replacesDirectory (target : String)
  /-- A file was to take the place of a directory that is in use. -/
  | replacesBusy (target : String)
  /-- Access was refused, with the host's own words. -/
  | denied (text : String)
  /-- Any other fault, with the host's own words. -/
  | other (text : String)
deriving DecidableEq, Repr

namespace HostFault

/-- The name that stands for a temporary file, whose true name is chosen by the host. -/
def temporaryName : String := "<tmp>"

def message : HostFault → String
  | missing path => "[Errno 2] No such file or directory: " ++ Text.quoted path
  | present path => "[Errno 17] File exists: " ++ Text.quoted path
  | notDirectory path => "[Errno 20] Not a directory: " ++ Text.quoted path
  | isDirectory path => "[Errno 21] Is a directory: " ++ Text.quoted path
  | overlong path => "[Errno 36] File name too long: " ++ Text.quoted path
  | replacesDirectory target =>
      "[Errno 21] Is a directory: " ++ Text.quoted temporaryName ++ " -> " ++ Text.quoted target
  | replacesBusy target =>
      "[Errno 16] Device or resource busy: " ++ Text.quoted temporaryName ++ " -> "
        ++ Text.quoted target
  | denied text => text
  | other text => text

end HostFault

/-! ## Refused configurations -/

/-- Why a driver configuration, a layout or an options file is refused. -/
inductive Refusal where
  | unknownClass (text : String)
  | unsupportedArch (text : String)
  | malformedFramework (text : String)
  | frameworkMissing (driverClass : DriverClass)
  | frameworkForeign (version : FrameworkVersion) (driverClass : DriverClass)
  | frameworkUnused
  | notDriverConfig (shown : String)
  | layoutNotMapping
  | tiersNotList (group className : String)
  | tierWithoutTemplate (group className : String)
  | optionOfOther (option : String) (driverClass : DriverClass)
  | optionsMissing (path : Path)
  | optionsNotYaml (path : Path)
  | optionsUnreadable (path : Path) (text : String)
  | optionsNotMapping (path : Path)
  | unknownOptions (path : Path) (names : List String)
  /-- A refusal that passes on the words of another failure. -/
  | passedOn (message : String)
deriving DecidableEq, Repr

namespace Refusal

/-- The word that stands for what the reader of documents has to say about a malformed one. -/
def readerWords : String := "<yaml>"

def message : Refusal → String
  | unknownClass text =>
      "Unknown driver class '" ++ text ++ "'. Supported classes: "
        ++ ", ".intercalate (DriverClass.all.map DriverClass.name)
  | unsupportedArch text =>
      "Unsupported target architecture '" ++ text ++ "'. Supported architectures: "
        ++ ", ".intercalate (Arch.all.map Arch.name)
  | malformedFramework text =>
      "Invalid framework version '" ++ text ++ "' (expected 'major.minor', e.g. 1.33)"
  | frameworkMissing driverClass => driverClass.name ++ " requires a framework version"
  | frameworkForeign version driverClass =>
      version.text ++ " is not a " ++ driverClass.name ++ " version (" ++ driverClass.name
        ++ " versions are " ++ Text.writeInteger driverClass.frameworkMajor ++ ".x)"
  | frameworkUnused => "WDM drivers do not use a framework version"
  | notDriverConfig shown => "Not a driver configuration: " ++ shown
  | layoutNotMapping => "layout must be a mapping"
  | tiersNotList group className => "layout." ++ group ++ "." ++ className ++ " must be a list"
  | tierWithoutTemplate group className =>
      "layout." ++ group ++ "." ++ className ++ " entries need a template"
  | optionOfOther option driverClass =>
      option ++ " cannot be set for a " ++ driverClass.name ++ " driver"
  | optionsMissing path => "Options file not found: " ++ path.text
  | optionsNotYaml path => "Invalid YAML syntax in " ++ path.text ++ ": " ++ readerWords
  | optionsUnreadable path text => "Cannot read options file " ++ path.text ++ ": " ++ text
  | optionsNotMapping path => "Options file " ++ path.text ++ " must contain a mapping"
  | unknownOptions path names =>
      "Unknown option(s) in " ++ path.text ++ ": " ++ ", ".intercalate names
  | passedOn message => message

end Refusal

/-- The options that were given, by name, for the reader of a refusal. -/
abbrev Supplied := List (String × Datum)

/-- The options that were given, as a remark after a message. -/
def suppliedRemark (supplied : Supplied) : String :=
  if supplied.isEmpty then ""
  else
    " (supplied: "
      ++ ", ".intercalate (supplied.map fun (name, value) => name ++ "=" ++ value.shown) ++ ")"

/-! ## Failures of a build step -/

inductive ProbeReason where
  /-- The words of the host. -/
  | fault (text : String)
  /-- Directories that a kit should have are not there. -/
  | incomplete (version : KitVersion) (missing : List Path)
deriving Repr

def ProbeReason.message : ProbeReason → String
  | .fault text => text
  | .incomplete version missing =>
      "kit " ++ version.text ++ " is missing " ++ Nat.repr missing.length ++ " required director"
        ++ (if missing.length == 1 then "y" else "ies") ++ ": "
        ++ ", ".intercalate (missing.map Path.text)

inductive CacheReason where
  /-- The words of the host. -/
  | fault (text : String)
  | notYaml
  | notMapping
  /-- The document does not describe a configuration. -/
  | malformed (text : String)
  | absent
deriving DecidableEq, Repr

def CacheReason.message : CacheReason → String
  | .fault text => text
  | .notYaml => Refusal.readerWords
  | .notMapping => "cache document is not a mapping"
  | .malformed text => "malformed cache document: " ++ text
  | .absent => "no cached configuration; run 'configure' first"

/-- Everything that can end a build step early. -/
inductive Failure where
  | kitNotFound (attempted : List Path)
  | probe (path : Option Path) (reason : ProbeReason)
  | versionMismatch (pinned : KitVersion) (available : List KitVersion)
  | invalidVersion (text : String)
  | invalidConfig (refusal : Refusal) (supplied : Supplied)
  | invalidOptions (refusal : Refusal) (supplied : Supplied)
  | bindings (header : Path) (code : Option Int) (report : String)
  | cache (path : Path) (reason : CacheReason)
  | host (fault : HostFault)
  | misuse (misuse : Misuse)
deriving Repr

namespace Failure

/-- The words for a pinned version that is not among the installed ones. -/
def mismatchMessage (pinned : String) (available : List KitVersion) : String :=
  let found := ", ".intercalate (available.map KitVersion.text)
  "Pinned kit version " ++ pinned ++ " is not installed (available: "
    ++ (if found.isEmpty then "none" else found) ++ ")"

def message : Failure → String
  | kitNotFound attempted =>
      "No Windows Driver Kit installation found"
        ++ (if attempted.isEmpty then ""
            else " (searched: " ++ ", ".intercalate (attempted.map Path.text) ++ ")")
        ++ ". Install the WDK or set WDKContentRoot to its root directory."
  | probe path reason =>
      "Failed to probe kit installation"
        ++ (path.map fun place => " at " ++ place.text).getD "" ++ ": " ++ reason.message
  | versionMismatch pinned available => mismatchMessage pinned.text available
  | invalidVersion text =>
      "Invalid kit version '" ++ text ++ "' (expected dotted numbers, e.g. 10.0.22621.0)"
  | invalidConfig refusal supplied => refusal.message ++ suppliedRemark supplied
  | invalidOptions refusal supplied => refusal.message ++ suppliedRemark supplied
  | bindings header code report =>
      "Binding generation failed for " ++ header.text
        ++ (code.map fun number => " (exit code " ++ Text.writeInteger number ++ ")").getD ""
        ++ (if report.isEmpty then "" else ":\n" ++ Text.trim report)
  | cache path reason =>
      "Configuration cache error for " ++ path.text ++ ": " ++ reason.message
  | host fault => fault.message
  | misuse cause => cause.message?.getD ""

def isReported : Failure → Bool
  | host _ => false
  | misuse _ => false
  | _ => true

end Failure

/-- The text of a value, unless a number in it has too many digits. -/
def Datum.write (value : Datum) : Except Failure String :=
  if value.isWritable then .ok value.plain else .error (.misuse .overlongNumeral)

@[simp]
theorem Datum.write_text (value : String) : (Datum.text value).write = .ok value := rfl

end DriverKit
