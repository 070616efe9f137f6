import DriverKit.Bindings.Generator
import DriverKit.CommandLine.Grammar
import DriverKit.Environment

/-!
# Invocations

The commands of the program and their options: one runs a build step, the other generates bindings
with the configuration that the last build step kept.
-/

namespace DriverKit.CommandLine

/-! ## Grammars -/

def programName : String := "wdkconfig"

def programVersion : String := "0.1.0"

def helpOption : OptionSpec := ⟨["-h", "--help"], .help⟩

def mainGrammar : Grammar where
  program := programName
  options :=
    [helpOption, ⟨["--version"], .version⟩, ⟨["--verbose", "-v"], .flag⟩,
     ⟨["--quiet", "-q"], .flag⟩]

def outDirOption : OptionSpec := ⟨["--out-dir"], .value⟩

def configureGrammar : Grammar where
  program := programName ++ " configure"
  options := [helpOption, outDirOption, ⟨["--config"], .value⟩, ⟨["--no-verify"], .flag⟩]

def bindgenGrammar : Grammar where
  program := programName ++ " bindgen"
  options :=
    [helpOption, outDirOption, ⟨["--header"], .value⟩, ⟨["--output"], .value⟩,
     ⟨["--generator"], .value⟩]

/-! ## Invocations -/

inductive Verbosity where
  | verbose
  | usual
  | quiet
deriving DecidableEq, Repr

/-- What the program is asked to do. -/
inductive Command where
  | configure (outDir options : Option Path) (verify : Bool)
  | bindgen (outDir : Option Path) (header output : Path) (generator : String)
deriving Repr

structure Invocation where
  verbosity : Verbosity
  command : Option Command
deriving Repr

/-- The directory in which the cache lies: the one that is named, or that of the environment. -/
def outDir? (environment : Environment) (consumed : Consumed) : Option Path :=
  ((consumed.value? "--out-dir").or (environment.value? "OUT_DIR")).map Path.ofText

def readConfigure (environment : Environment) (arguments : List String) :
    Except Halt (Command × List String) := do
  let consumed ← configureGrammar.read false arguments
  let options := (consumed.value? "--config").map Path.ofText
  return (.configure (outDir? environment consumed) options !consumed.has "--no-verify",
    consumed.leftovers)

/-- The command that bindings are asked for by. A header and an output must be named. -/
def readBindgen (environment : Environment) (arguments : List String) :
    Except Halt (Command × List String) := do
  let consumed ← bindgenGrammar.read false arguments
  match consumed.value? "--header", consumed.value? "--output" with
  | some header, some output =>
      let generator := (consumed.value? "--generator").getD Bindings.usualGenerator
      return (.bindgen (outDir? environment consumed) (Path.ofText header) (Path.ofText output)
        generator, consumed.leftovers)
  | _, _ =>
      let missing := ["--header", "--output"].filter fun name => (consumed.value? name).isNone
      .error (.refused bindgenGrammar.program
        ("the following arguments are required: " ++ ", ".intercalate missing))

/-- The command that the first operand and what follows it stand for. -/
def readCommand (environment : Environment) :
    List String → Except Halt (Option Command × List String)
  | [] => .ok (none, [])
  | "configure" :: arguments => do
      let (command, leftovers) ← readConfigure environment arguments
      return (some command, leftovers)
  | "bindgen" :: arguments => do
      let (command, leftovers) ← readBindgen environment arguments
      return (some command, leftovers)
  | other :: _ =>
      .error (.refused programName
        ("argument COMMAND: invalid choice: " ++ Text.quoted other
          ++ " (choose from 'configure', 'bindgen')"))

def Invocation.read (environment : Environment) (arguments : List String) :
    Except Halt Invocation := do
  let consumed ← mainGrammar.read true arguments
  let (command, leftovers) ← readCommand environment consumed.rest
  let unknown := consumed.leftovers ++ leftovers
  if !unknown.isEmpty then
    .error (.refused programName ("unrecognized arguments: " ++ " ".intercalate unknown))
  else
    let verbosity : Verbosity :=
      if consumed.has "--verbose" then .verbose
      else if consumed.has "--quiet" then .quiet
      else .usual
    return ⟨verbosity, command⟩

end DriverKit.CommandLine
