import DriverKit.Text.Digit
import DriverKit.Text.Quoted

/-!
# Arguments of commands

How the arguments of a command are taken apart into options and operands. A long option may be
cut short as long as it stays unambiguous, its value may follow an equals sign, and single letters
may be joined. What is no known option is kept as a leftover, to be complained about in the end.
-/

namespace DriverKit.CommandLine

/-- What an option does. -/
inductive Effect where
  /-- It shows the help text and ends the program. -/
  | help
  /-- It shows the version and ends the program. -/
  | version
  /-- It switches something on. -/
  | flag
  /-- It takes a value. -/
  | value
deriving DecidableEq, Repr

/-- An option: its names, the first of which it is known by, and what it does. -/
structure OptionSpec where
  names : List String
  effect : Effect
deriving DecidableEq, Repr

/-- The options of a command. -/
structure Grammar where
  program : String
  options : List OptionSpec
deriving Repr

inductive Halt where
  | help (grammar : Grammar)
  | version
  /-- The arguments make no sense; the program that says so, and what it says. -/
  | refused (program message : String)
deriving Repr

/-! ## Kinds of arguments -/

/-- An option as it is written: the option if it is a known one, its name, and a value that is
joined to it. -/
structure Mention where
  spec : Option OptionSpec
  name : String
  joined : Option String
deriving Repr

inductive Kind where
  | operand
  /-- The mark after which everything is an operand. -/
  | separator
  | option (mention : Mention)
deriving Repr

namespace Grammar

def named (grammar : Grammar) : List (String × OptionSpec) :=
  grammar.options.flatMap fun spec => spec.names.map fun name => (name, spec)

def lookup? (grammar : Grammar) (name : String) : Option OptionSpec :=
  grammar.named.lookup name

end Grammar

/-- What stands before and after the first equals sign, if there is one. -/
def splitValue (argument : String) : String × Option String :=
  let (before, after) := argument.toList.span (· != '=')
  match after with
  | [] => (argument, none)
  | _ :: value => (String.ofList before, some (String.ofList value))

def startsWith (text start : String) : Bool := start.toList.isPrefixOf text.toList

def longMatches (grammar : Grammar) (argument : String) : List Mention :=
  let (start, joined) := splitValue argument
  (grammar.named.filter fun entry => startsWith entry.1 start).map fun (name, spec) =>
    ⟨some spec, name, joined⟩

/-- The options that a short argument may be meant for: that of its first letter, to which the
rest is joined, or one that it begins. -/
def shortMatches (grammar : Grammar) (argument : String) : List Mention :=
  let letter := String.ofList (argument.toList.take 2)
  grammar.named.filterMap fun (name, spec) =>
    if name == letter then some ⟨some spec, name, some (String.ofList (argument.toList.drop 2))⟩
    else if startsWith name argument then some ⟨some spec, name, none⟩
    else none

def isNegativeNumber (argument : String) : Bool :=
  let characters := argument.toList.drop 1
  let characters := if characters.getLast? == some '\n' then characters.dropLast else characters
  let (whole, rest) := characters.span Text.isDigit
  match rest with
  | [] => !whole.isEmpty
  | '.' :: fraction => !fraction.isEmpty && fraction.all Text.isDigit
  | _ => false

/-- What a single argument is, if no separator stands before it. Something that looks like an
option but is none is an operand if it is a number or has a space in it. -/
def Grammar.kindOf (grammar : Grammar) (argument : String) : Except Halt Kind :=
  match argument.toList with
  | '-' :: second :: _ =>
      match grammar.lookup? argument, splitValue argument with
      | some spec, _ => .ok (.option ⟨some spec, argument, none⟩)
      | none, (name, joined) =>
          match (if joined.isSome then grammar.lookup? name else none) with
          | some spec => .ok (.option ⟨some spec, name, joined⟩)
          | none =>
              let candidates :=
                if second == '-' then longMatches grammar argument
                else shortMatches grammar argument
              match candidates with
              | [] =>
                  .ok (if isNegativeNumber argument || argument.toList.contains ' ' then .operand
                    else .option ⟨none, argument, none⟩)
              | [mention] => .ok (.option mention)
              | mentions =>
                  .error (.refused grammar.program
                    ("ambiguous option: " ++ argument ++ " could match "
                      ++ ", ".intercalate (mentions.map Mention.name)))
  | _ => .ok .operand

/-- What all arguments are. -/
def Grammar.kinds (grammar : Grammar) : List String → Except Halt (List (String × Kind))
  | [] => .ok []
  | argument :: rest =>
      if argument == "--" then
        .ok ((argument, .separator) :: rest.map fun operand => (operand, .operand))
      else do
        let kind ← grammar.kindOf argument
        return (argument, kind) :: (← grammar.kinds rest)

/-! ## Settings -/

/-- An option that is set, by the name that it is known by, with its value if it takes one. -/
structure Setting where
  name : String
  value : Option String
deriving DecidableEq, Repr

/-- What the arguments of a command come down to. -/
structure Consumed where
  settings : List Setting
  /-- What is neither an option nor a value of one. -/
  leftovers : List String
  /-- The arguments from the first operand on, for a grammar that leaves them to another. -/
  rest : List String
deriving Repr

def Grammar.refuse {α : Type} (grammar : Grammar) (spec : OptionSpec) (message : String) :
    Except Halt α :=
  .error (.refused grammar.program ("argument " ++ "/".intercalate spec.names ++ ": " ++ message))

def Grammar.refuseJoined {α : Type} (grammar : Grammar) (spec : OptionSpec) (joined : String) :
    Except Halt α :=
  grammar.refuse spec ("ignored explicit argument " ++ Text.quoted joined)

/-- The options that letters stand for which are joined to the letter of an option: each takes no
value but the last, to which the rest is joined as its value. -/
def Grammar.joinedLetters (grammar : Grammar) (spec : OptionSpec) :
    List Char → Except Halt (List (OptionSpec × Option String))
  | [] => .ok [(spec, none)]
  | letter :: rest =>
      if spec.effect = .value then .ok [(spec, some (String.ofList (letter :: rest)))]
      else
        match grammar.lookup? (String.ofList ['-', letter]) with
        | none => grammar.refuseJoined spec (String.ofList (letter :: rest))
        | some next => do return (spec, none) :: (← grammar.joinedLetters next rest)

def Grammar.meant (grammar : Grammar) (spec : OptionSpec) (mention : Mention) :
    Except Halt (List (OptionSpec × Option String)) :=
  match mention.joined with
  | none => .ok [(spec, none)]
  | some joined =>
      if spec.effect = .value then .ok [(spec, some joined)]
      else if startsWith mention.name "--" || joined == "" then grammar.refuseJoined spec joined
      else grammar.joinedLetters spec joined.toList

/-- Carries out options: some end the program, the others are settings. -/
def Grammar.carryOut (grammar : Grammar) :
    List (OptionSpec × Option String) → Except Halt (List Setting)
  | [] => .ok []
  | (spec, value) :: rest =>
      match spec.effect with
      | .help => .error (.help grammar)
      | .version => .error .version
      | _ => do return ⟨spec.names.headD "", value⟩ :: (← grammar.carryOut rest)

def Consumed.after (consumed : Consumed) (settings : List Setting) : Consumed :=
  { consumed with settings := settings ++ consumed.settings }

def Consumed.behind (consumed : Consumed) (leftover : String) : Consumed :=
  { consumed with leftovers := leftover :: consumed.leftovers }

/-- Tells whether the last of some options still needs a value. -/
def needsValue (options : List (OptionSpec × Option String)) : Option OptionSpec :=
  match options.getLast? with
  | some (spec, none) => if spec.effect = .value then some spec else none
  | _ => none

/-- Goes through arguments. If the grammar leaves operands to another, the first one ends the way;
otherwise operands are leftovers. -/
def Grammar.consume (grammar : Grammar) (leaves : Bool) :
    List (String × Kind) → Except Halt Consumed
  | [] => .ok ⟨[], [], []⟩
  | (argument, .operand) :: rest =>
      if leaves then .ok ⟨[], [], argument :: rest.map Prod.fst⟩
      else do return (← grammar.consume leaves rest).behind argument
  | (argument, .separator) :: rest =>
      if leaves && !rest.isEmpty then .ok ⟨[], [], argument :: rest.map Prod.fst⟩
      else do return (← grammar.consume leaves rest).behind argument
  | (argument, .option mention) :: rest =>
      match mention.spec with
      | none => do return (← grammar.consume leaves rest).behind argument
      | some spec => do
          let options ← grammar.meant spec mention
          match needsValue options, rest with
          | some last, (value, .operand) :: rest =>
              let settings ← grammar.carryOut (options.dropLast ++ [(last, some value)])
              return (← grammar.consume leaves rest).after settings
          | some last, _ => grammar.refuse last "expected one argument"
          | none, rest =>
              let settings ← grammar.carryOut options
              return (← grammar.consume leaves rest).after settings

def Grammar.read (grammar : Grammar) (leaves : Bool) (arguments : List String) :
    Except Halt Consumed := do
  grammar.consume leaves (← grammar.kinds arguments)

namespace Consumed

def has (consumed : Consumed) (name : String) : Bool :=
  consumed.settings.any (·.name == name)

/-- The value of an option, the last one if it is set several times. -/
def value? (consumed : Consumed) (name : String) : Option String :=
  (consumed.settings.reverse.find? (·.name == name)).bind Setting.value

end Consumed

end DriverKit.CommandLine
