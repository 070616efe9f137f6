import DriverKit.CommandLine.Help
import DriverKit.CommandLine.Run

/-!
# The program

The outer layer of the command line. The directories of the host are read from standard input, one
path on a line; files are read where the command names them. What the command changes is then
written back. The binding generator is not started from here: its command line is written to the
output.
-/

namespace DriverKit.CommandLine

/-! ## What the host is like -/

def variableNames : List String :=
  [Candidate.rootVariable, "OUT_DIR", Options.orchestratorVariable] ++ Options.sources.map Prod.snd

def readEnvironment : List String → IO Environment
  | [] => return []
  | name :: rest => do
      let others ← readEnvironment rest
      match ← IO.getEnv name with
      | some value => return (name, value) :: others
      | none => return others

def readMachine : IO Machine := do
  let system := if (← IO.getEnv "OS") == some "Windows_NT" then "Windows" else "Linux"
  let processor := (← IO.getEnv "PROCESSOR_ARCHITECTURE").getD "x86_64"
  return (Machine.ask none ⟨system, processor, "", ""⟩).1

def readWorkingDirectory : IO Place := do
  return (Path.ofText (← IO.currentDir).toString).destination .root

def diskOf (workingDirectory : Place) (listing : String) : Disk :=
  (listing.splitOn "\n").foldl
    (fun disk line => if line.isEmpty then disk
      else (disk.makeDirectories (Path.ofText line) none).2)
    { Disk.empty with workingDirectory }

def filesOf (invocation : Invocation) : List Path :=
  match invocation.command with
  | none => []
  | some (.configure _ options _) => [options.getD Options.usualFile]
  | some (.bindgen outDir header _ _) =>
      header :: (outDir.map fun directory => Cache.file directory Cache.usualName).toList

def addFiles (disk : Disk) : List Path → IO Disk
  | [] => return disk
  | path :: rest => do
      let disk ← addFiles disk rest
      try
        let bytes ← IO.FS.readBinFile path.text
        let disk := (disk.makeDirectories path.parent none).2
        match disk.place path with
        | .ok place => return disk.put place (.file bytes)
        | .error _ => return disk
      catch _ => return disk

/-! ## What the program leaves behind -/

/-- Writes the file that a build step keeps, if it has changed. -/
def keep (before after : Disk) (path : Path) : IO Unit := do
  match after.read path with
  | .error _ => return
  | .ok bytes =>
      if (before.read path).toOption == some bytes then return
      IO.FS.createDirAll path.parent.text
      let temporary := (path.parent.child (Disk.temporaryText path)).text
      IO.FS.writeBinFile temporary bytes
      IO.FS.rename temporary path.text

def keptFile? (invocation : Invocation) : Option Path :=
  match invocation.command with
  | some (.configure (some outDir) _ _) => some (Cache.file outDir Cache.usualName)
  | _ => none

def Written.content : Written → String
  | .text value => value
  | .help grammar => grammar.help

/-- How many levels of nodes are read below the first one of a document. -/
def nestingLimit : Nat := 489

/-- A program that is found by its name and ends well. -/
def assumedTool (program : String) : Bindings.Tool := ⟨some (Path.ofText program), .exit 0 ""⟩

end DriverKit.CommandLine

open DriverKit DriverKit.CommandLine

def main (arguments : List String) : IO UInt32 := do
  let environment ← readEnvironment variableNames
  let machine ← readMachine
  let invocation := (Invocation.read environment arguments).toOption
  let listing ← if invocation.isSome then (← IO.getStdin).readToEnd else pure ""
  let begun := diskOf (← readWorkingDirectory) listing
  let disk ← addFiles begun ((invocation.map filesOf).getD [])
  let host : Host :=
    ⟨.ofLevels nestingLimit, .fewest, disk, environment, .absent, machine, assumedTool, .none⟩
  let ran := run host arguments
  match invocation.bind keptFile? with
  | some file => keep disk ran.disk file
  | none => pure ()
  IO.print ran.output.content
  match ran.command with
  | some words => IO.println (" ".intercalate words)
  | none => pure ()
  IO.eprint ran.report.content
  match ran.code with
  | .ok code => return UInt32.ofNat code
  | .error failure =>
      IO.eprintln failure.message
      return 1
