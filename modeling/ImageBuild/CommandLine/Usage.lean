import ImageBuild.CommandLine.Grammar

/-!
# Usage lines and help texts

How a command is used, in one line or with an account of each argument.  The
line names either all that a command may take, or only the arguments that a
command line has used so far and those that it needs.  A detailed help has room
for several paragraphs an argument.
-/

namespace ImageBuild.CommandLine

namespace Command

/-- The program itself, which needs a command. -/
def isProgram (c : Command) : Bool :=
  c.name == programName

/-- The name that a command is called by. -/
def fullName (c : Command) : String :=
  if c.isProgram then c.name else s!"{programName} {c.name}"

/-- A positional argument in the usage line, which shows whether it can be
repeated. -/
def positionalText (a : Argument) (isRequired : Bool) : String :=
  a.usageText isRequired ++ if a.isRepeatable then "..." else ""

/-- The usage of a command with all that it may take. -/
def usage (c : Command) : String :=
  let options := if c.options.isEmpty then [] else ["[OPTIONS]"]
  let positionals := c.positionals.map fun a => positionalText a a.isRequired
  let command := if c.isProgram then ["<COMMAND>"] else []
  " ".intercalate (c.fullName :: options ++ positionals ++ command)

/-- The usage of a command with arguments that have been used. -/
def usageWith (c : Command) (used : List String) : String :=
  if used.isEmpty then c.usage
  else
    let options := used.filterMap fun key =>
      (c.options.find? fun a => a.key == key).map fun a => a.usageText true
    let positionals := c.positionals.map fun a =>
      positionalText a (a.isRequired || used.contains a.key)
    let command := if c.isProgram then ["<COMMAND>"] else []
    " ".intercalate (c.fullName :: options ++ positionals ++ command)

/-- Some argument has more to be said about it than its summary. -/
def hasDetails (c : Command) : Bool :=
  (c.options ++ c.positionals).any fun a => !a.details.isEmpty

end Command

/-- An argument in front of its account. -/
def entryText (a : Argument) : String :=
  match a.long with
  | none => Command.positionalText a a.isRequired
  | some _ =>
      match a.short with
      | some c => s!"-{c}, {a.usageText true}"
      | none => s!"    {a.usageText true}"

/-- A text with blanks behind it up to a width. -/
def padRight (width : Nat) (text : String) : String :=
  text ++ String.ofList (List.replicate (width - text.length) ' ')

/-- Entries with their accounts beside them, in two columns. -/
def columns (entries : List (String × String)) : List String :=
  let width := (entries.map fun (entry, _) => entry.length).foldl max 0
  entries.map fun (entry, account) => s!"  {padRight width entry}  {account}"

/-- The summary of an argument, with what holds if it is not given. -/
def briefAccount (c : Command) (a : Argument) : String :=
  let summary :=
    if a.key = "help" && c.hasDetails then "Print help (see more with '--help')" else a.summary
  match a.standard with
  | some value => s!"{summary} [default: {value}]"
  | none => summary

/-- The paragraphs of an argument, with what holds if it is not given. -/
def detailedAccount (a : Argument) : List String :=
  let paragraphs :=
    if a.key = "help" then ["Print help (see a summary with '-h')"]
    else if a.details.isEmpty then [a.summary] else a.details
  match a.standard with
  | some value => paragraphs ++ [s!"[default: {value}]"]
  | none => paragraphs

/-- Entries with their accounts below them. -/
def blocks (arguments : List Argument) : List String :=
  let block (a : Argument) : List String :=
    let lines := (detailedAccount a).map fun paragraph => s!"          {paragraph}"
    s!"  {entryText a}" :: lines.intersperse "          "
  (arguments.map block).intersperse [""] |>.flatten

/-- A part of a help text with its title, if there is something in it. -/
def helpPart (title : String) (lines : List String) : List String :=
  if lines.isEmpty then [] else ["", title] ++ lines

/-- The help text of a command. -/
def helpText (c : Command) (isDetailed : Bool) : String :=
  let account (arguments : List Argument) : List String :=
    if isDetailed && c.hasDetails then blocks arguments
    else columns (arguments.map fun a => (entryText a, briefAccount c a))
  let commandLines :=
    if c.isProgram then columns (commands.map fun other => (other.name, other.about)) else []
  let lines :=
    [c.about, "", s!"Usage: {c.usage}"] ++
      helpPart "Commands:" commandLines ++
      helpPart "Arguments:" (account c.positionals) ++
      helpPart "Options:" (account c.options)
  String.join (lines.map (· ++ "\n"))

end ImageBuild.CommandLine
