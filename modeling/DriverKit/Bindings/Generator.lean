import DriverKit.Bindings.Flags
import DriverKit.Cache.File

/-!
# The binding generator

Running the program that turns headers into bindings. The program itself is a black box: it is
found or not, it starts or not, and it ends with a code and a report, which may be no text.
-/

namespace DriverKit.Bindings

/-! ## Programs -/

/-- How a program that is started ends. -/
inductive Ending where
  | exit (code : Int) (report : String)
  /-- It was not there any more. -/
  | vanished
  /-- The host refused to start it, with its words. -/
  | refused (text : String)
  /-- The host could not be told the command, which has a word that no program can be given. -/
  | unpassable
  /-- It came to its end, but what it said is no text. -/
  | undecodable
deriving DecidableEq, Repr

/-- What a host does with a program. -/
structure Tool where
  /-- Where the program is found, if it is. -/
  found : Option Path
  ending : Ending
deriving Repr

def usualGenerator : String := "bindgen"

/-! ## Generation -/

/-- What generation leaves behind. -/
structure Generated where
  result : Traced Path
  /-- The command that the host was asked to run, if it was asked. -/
  command : Option (List String)
  disk : Disk

def command (program : String) (header : Path) (flags : List String) (output : Path) :
    List String :=
  [program, header.text, "-o", output.text] ++ flags

def failure (header : Path) (report : String) : Failure := .bindings header none report

def notFound (program : String) : String := "Binding generator '" ++ program ++ "' not found"

def Ending.result (ending : Ending) (program : String) (header output : Path) :
    Except Failure Path :=
  match ending with
  | .exit code report =>
      if code == 0 then .ok output else .error (.bindings header (some code) report)
  | .vanished => .error (failure header (notFound program))
  | .refused text => .error (failure header text)
  | .unpassable => .error (.misuse .unnameable)
  | .undecodable => .error (.misuse .undecodable)

/-- Generates the bindings for a header. The program is only run if it and the header are there. -/
def generate (disk : Disk) (tool : Tool) (program : String) (header : Path) (flags : List String)
    (output : Path) : Generated :=
  match disk.isFile header with
  | .error fault => ⟨.fail (.host fault), none, disk⟩
  | .ok false => ⟨.fail (failure header ("Header not found: " ++ header.text)), none, disk⟩
  | .ok true =>
      if tool.found.isNone then ⟨.fail (failure header (notFound program)), none, disk⟩
      else
        match disk.makeDirectories output.parent none with
        | (.error failure, changed) => ⟨.fail failure, none, changed⟩
        | (.ok (), changed) =>
            let words := command program header flags output
            { result := do
                Traced.say .debug .generator
                  ("Running binding generator: " ++ " ".intercalate words)
                let made ← tool.ending.result program header output
                Traced.say .info .generator
                  ("Generated bindings for " ++ header.text ++ " -> " ++ output.text)
                return made
              command := some words
              disk := changed }

/-- Generates the bindings for a header with the configuration that the last build step kept. -/
def generateCached (loader : Yaml.Loader) (disk : Disk) (tool : Tool) (program : String)
    (outDir header output : Path) : Generated :=
  let file := Cache.file outDir Cache.usualName
  let loaded := Cache.load loader disk file
  match loaded.outcome with
  | .error failure => ⟨⟨.error failure, loaded.log⟩, none, disk⟩
  | .ok none => ⟨⟨.error (.cache file .absent), loaded.log⟩, none, disk⟩
  | .ok (some config) =>
      let generated :=
        generate disk tool program header (flags config .usual) output
      { generated with result := do
          let _ ← loaded
          generated.result }

end DriverKit.Bindings
