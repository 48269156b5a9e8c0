import ImageBuild.CommandLine.Usage
import ImageBuild.Text.Similarity

/-!
# Misuse of the command line

What can be wrong with a command line, and how the user is told.
-/

namespace ImageBuild.CommandLine

/-- What is wrong with a command line. -/
inductive Problem where
  | unexpected (word : String)
  | unknownCommand (word : String)
  | missingCommand
  | missingArguments (arguments : List String)
  | missingValue (argument : String)
  | invalidValue (word argument reason : String)
  | extraValue (word argument : String)
  | repeated (argument : String)
deriving DecidableEq, Repr

/-- The wording of a problem. -/
def Problem.message : Problem → String
  | unexpected word => s!"unexpected argument '{word}' found"
  | unknownCommand word => s!"unrecognized subcommand '{word}'"
  | missingCommand =>
      let names := ", ".intercalate (commands.map Command.name)
      s!"'{programName}' requires a subcommand but one was not provided\n  [subcommands: {names}]"
  | missingArguments arguments =>
      "the following required arguments were not provided:" ++
        String.join (arguments.map fun a => s!"\n  {a}")
  | missingValue argument => s!"a value is required for '{argument}' but none was supplied"
  | invalidValue word argument reason => s!"invalid value '{word}' for '{argument}': {reason}"
  | extraValue word argument =>
      s!"unexpected value '{word}' for '{argument}' found; no more were expected"
  | repeated argument => s!"the argument '{argument}' cannot be used multiple times"

/-- A problem with what the user may try, and the usage in question. -/
structure Misuse where
  problem : Problem
  tips : List String := []
  usage : Option String := none
deriving DecidableEq, Repr

namespace Misuse

/-- The text that tells the user. -/
def text (m : Misuse) : String :=
  let tips := m.tips.map fun tip => s!"\n  tip: {tip}"
  let usage := match m.usage with
    | some usage => s!"\n\nUsage: {usage}"
    | none => ""
  s!"error: {m.problem.message}" ++ (if tips.isEmpty then "" else "\n") ++ String.join tips ++
    usage ++ "\n\nFor more information, try '--help'.\n"

/-- The tip to use a word as a value. -/
def asValueTip (word : String) : String :=
  s!"to pass '{word}' as a value, use '-- {word}'"

/-- The tip to use a known name. -/
def similarTip (noun name : String) : String :=
  s!"a similar {noun} exists: '{name}'"

/-- The tip to use one of some commands. -/
def similarCommands (names : List String) : List String :=
  match names with
  | [] => []
  | [name] => [similarTip "subcommand" name]
  | names =>
      let list := ", ".intercalate (names.map fun name => s!"'{name}'")
      [s!"some similar subcommands exist: {list}"]

/-- A word that is no option of a command, given with a single dash. -/
def unknownShort (c : Command) (word : String) : Misuse where
  problem := .unexpected word
  tips := if c.positionals.isEmpty then [] else [asValueTip word]
  usage := some c.usage

/-- The long names of the options of a command. -/
def longNames (c : Command) : List String :=
  c.options.filterMap Argument.long

/-- The option of another command that resembles a name, for the first such
command on the rest of the command line. -/
def elsewhere? (name : String) (rest : List String) : Option (String × String) :=
  rest.findSome? fun word => do
    let c ← command? word
    let option ← (Text.similarWords name (longNames c)).getLast?
    return (c.name, option)

/-- A name that is no option of a command, given with two dashes, after some
arguments have been used. -/
def unknownLong (c : Command) (used : List String) (name : String) (rest : List String) :
    Misuse :=
  let word := s!"--{name}"
  match (Text.similarWords name (longNames c)).getLast? with
  | some similar =>
      { problem := .unexpected word
        tips := [similarTip "argument" s!"--{similar}"]
        usage := some (c.usageWith (if used.contains similar then used else used ++ [similar])) }
  | none =>
      let found := if c.isProgram then elsewhere? name rest else none
      { problem := .unexpected word
        tips := match found with
          | some (command, option) => [s!"'{command} --{option}' exists"]
          | none => if c.positionals.isEmpty then [] else [asValueTip word]
        usage := some (c.usageWith used) }

/-- A word that a command has no place for. -/
def unplaced (c : Command) (isTrailing : Bool) (word : String) : Misuse :=
  if c.isProgram then
    if isTrailing && (command? word).isSome then
      { problem := .unexpected word
        tips := [s!"subcommand '{word}' exists; to use it, remove the '--' before it"]
        usage := some c.usage }
    else
      { problem := .unknownCommand word
        tips := similarCommands (Text.similarWords word (commands.map Command.name))
        usage := some c.usage }
  else { problem := .unexpected word, usage := some c.usage }

end Misuse

end ImageBuild.CommandLine
