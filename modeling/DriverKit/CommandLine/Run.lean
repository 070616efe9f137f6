import DriverKit.BuildStep
import DriverKit.CommandLine.Invocation
import DriverKit.Options.Loading

/-!
# Running commands

What a call of the program writes, and with which code it ends. Directives go to the output, and
all that the program has to say goes to the report, so that the two never mix. A failure that the
build step reports as its own ends the program with code 1; any other failure is passed on.
-/

namespace DriverKit.CommandLine

/-! ## Reports -/

def Verbosity.level : Verbosity → Log.Level
  | .verbose => .debug
  | .usual => .info
  | .quiet => .error

def Verbosity.line (verbosity : Verbosity) (entry : Log.Entry) : String :=
  match verbosity with
  | .verbose => entry.level.name ++ " [" ++ entry.topic.name ++ "] " ++ entry.message ++ "\n"
  | .usual => entry.message ++ "\n"
  | .quiet => entry.level.name ++ ": " ++ entry.message ++ "\n"

def Verbosity.report (verbosity : Verbosity) (log : List Log.Entry) : String :=
  String.join
    ((log.filter fun entry => verbosity.level.rank ≤ entry.level.rank).map verbosity.line)

/-! ## Running -/

/-- What a call of the program finds on its host. -/
structure Host where
  /-- What documents are read with. -/
  loader : Yaml.Loader
  /-- What it says about the parts of values that templates ask for. -/
  parts : Template.Parts
  disk : Disk
  environment : Environment
  registry : Store
  machine : Machine
  /-- What the host does with a program of a name. -/
  tool : String → Bindings.Tool
  faults : Disk.ReplacementFaults

/-- What is written to the output or to the report. -/
inductive Written where
  | text (value : String)
  /-- The help text of a command. -/
  | help (grammar : Grammar)
deriving Repr

structure Ran where
  /-- The code that the program ends with, or a failure that is passed on. -/
  code : Except Failure Nat
  output : Written
  report : Written
  /-- The command that was run, if one was. -/
  command : Option (List String)
  disk : Disk
  /-- Whether the arguments made sense. -/
  understood : Bool

/-- The end of a call whose arguments ask for something else than a command, or make no sense. -/
def halted (host : Host) (halt : Halt) : Ran :=
  let ended (code : Nat) (output report : Written) : Ran :=
    ⟨.ok code, output, report, none, host.disk, false⟩
  match halt with
  | .help grammar => ended 0 (.help grammar) (.text "")
  | .version => ended 0 (.text (programName ++ " " ++ programVersion ++ "\n")) (.text "")
  | .refused program message =>
      ended 2 (.text "") (.text (program ++ ": error: " ++ message ++ "\n"))

/-- The code that an outcome ends the program with, and what has been said then. -/
def ended {α : Type} (traced : Traced α) : Except Failure Nat × List Log.Entry :=
  match traced.outcome with
  | .ok _ => (.ok 0, traced.log)
  | .error failure =>
      if failure.isReported then
        (.ok 1, traced.log ++ [⟨.error, .commandLine, "Error: " ++ failure.message⟩])
      else (.error failure, traced.log)

def withoutOutDir (host : Host) (verbosity : Verbosity) : Ran :=
  let entry : Log.Entry :=
    ⟨.error, .commandLine, "No output directory: pass --out-dir or set OUT_DIR"⟩
  ⟨.ok 1, .text "", .text (verbosity.report [entry]), none, host.disk, true⟩

def buildStep (host : Host) (options : Options) (outDir : Path) (verify : Bool) : BuildStep where
  options := options
  outDir := outDir
  environment := host.environment
  store := Store.ofMachine host.machine host.registry
  standard := Candidate.standardLocations
  machine := host.machine
  verify := verify
  parts := host.parts

def configure (host : Host) (outDir : Path) (optionsFile : Option Path) (verify : Bool) :
    BuildOutcome :=
  let loaded := Options.load host.loader host.disk host.environment optionsFile
  match loaded.outcome with
  | .error failure => ⟨⟨.error failure, loaded.log⟩, "", host.disk⟩
  | .ok options =>
      let outcome := (buildStep host options outDir verify).configure host.disk host.faults
      { outcome with result := do
          let _ ← loaded
          outcome.result }

def Command.run (command : Command) (host : Host) (verbosity : Verbosity) : Ran :=
  match command with
  | .configure (some outDir) options verify =>
      let outcome := CommandLine.configure host outDir options verify
      let (code, log) := ended outcome.result
      ⟨code, .text outcome.stream, .text (verbosity.report log), none, outcome.disk, true⟩
  | .bindgen (some outDir) header output generator =>
      let generated :=
        Bindings.generateCached host.loader host.disk (host.tool generator) generator outDir header
          output
      let (code, log) := ended generated.result
      ⟨code, .text "", .text (verbosity.report log), generated.command, generated.disk, true⟩
  | .configure none _ _ | .bindgen none _ _ _ => withoutOutDir host verbosity

def run (host : Host) (arguments : List String) : Ran :=
  match Invocation.read host.environment arguments with
  | .error halt => halted host halt
  | .ok invocation =>
      match invocation.command with
      | none => ⟨.ok 1, .text "", .help mainGrammar, none, host.disk, true⟩
      | some command => command.run host invocation.verbosity

end DriverKit.CommandLine
