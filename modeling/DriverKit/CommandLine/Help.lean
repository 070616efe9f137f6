import DriverKit.CommandLine.Grammar

/-!
# Help texts

The options of a command, one on a line.
-/

namespace DriverKit.CommandLine

def Effect.words : Effect → String
  | .help => "show this help and exit"
  | .version => "show the version and exit"
  | .flag => "switch on"
  | .value => "set to the next argument"

def OptionSpec.line (spec : OptionSpec) : String :=
  "  " ++ ", ".intercalate spec.names ++ "  " ++ spec.effect.words ++ "\n"

def Grammar.help (grammar : Grammar) : String :=
  "usage: " ++ grammar.program ++ " [options]\n\n"
    ++ String.join (grammar.options.map OptionSpec.line)

end DriverKit.CommandLine
