import ImageBuild.Configuration

/-!
# The grammar of the command line

The commands of the program and the arguments that each of them takes, as data.
Reading a command line, the usage lines and the help texts all follow it.
-/

namespace ImageBuild.CommandLine

/-- What values an argument takes. -/
inductive ValueKind where
  /-- Any text. -/
  | text
  /-- A text that is not empty. -/
  | path
  /-- A number of at most 32 bits. -/
  | number
deriving DecidableEq, Repr

/-- An argument.  It is an option when it has a `long` name, and otherwise given
by its place; an option without a name for its value takes none. -/
structure Argument where
  long : Option String := none
  short : Option Char := none
  valueName : Option String := none
  kind : ValueKind := .text
  isRequired : Bool := false
  isRepeatable : Bool := false
  summary : String
  /-- Paragraphs that a detailed help gives in place of the summary. -/
  details : List String := []
  standard : Option String := none
deriving DecidableEq, Repr

/-- A command with its options and the arguments that are given by place. -/
structure Command where
  name : String
  about : String
  options : List Argument
  positionals : List Argument
deriving DecidableEq, Repr

namespace Argument

/-- The name of an argument, unlike that of any other of a command. -/
def key (a : Argument) : String :=
  a.long.getD (a.valueName.getD "")

/-- A value that has to be given, or need not be. -/
def valueText (a : Argument) (isRequired : Bool) : String :=
  match a.valueName with
  | none => ""
  | some name => if a.long.isSome || isRequired then s!"<{name}>" else s!"[{name}]"

/-- An argument in a usage line. -/
def usageText (a : Argument) (isRequired : Bool) : String :=
  match a.long, a.valueName with
  | some long, none => s!"--{long}"
  | some long, some _ => s!"--{long} {a.valueText true}"
  | none, _ => a.valueText isRequired

/-- An argument in a message. -/
def text (a : Argument) : String :=
  a.usageText a.isRequired

end Argument

/-- The name of the program. -/
def programName : String := "repo-config"

/-- The name and the version of the program. -/
def versionText : String := s!"{programName} 0.1.0"

def logLevel : Argument where
  long := some "log-level"
  valueName := some "LEVEL"
  summary := "Set log level (error, warn, info, debug, trace)"
  standard := some "warn"

def helpOption : Argument where
  long := some "help"
  short := some 'h'
  summary := "Print help"

def versionOption : Argument where
  long := some "version"
  short := some 'V'
  summary := "Print version"

def directory : Argument where
  valueName := some "DIR"
  kind := .path
  summary := "Repository directory holding the configuration files"
  standard := some "."

def configFile : Argument where
  long := some "config-file"
  valueName := some "NAME"
  summary := "Name of the INI file with the \x60[autorebuild]\x60 section"
  standard := some Settings.defaultFileName

def containerFile : Argument where
  long := some "container-file"
  valueName := some "NAME"
  summary := "Name of the container configuration YAML file"
  standard := some Configuration.containerFileName

def dockerfile : Argument where
  long := some "dockerfile"
  valueName := some "FILE"
  kind := .path
  summary := "Dockerfile to read labels and base image from"
  details := [
    "Dockerfile to read labels and base image from.",
    "Defaults to \x60Dockerfile\x60 in the repository directory."]

def tag : Argument where
  long := some "tag"
  valueName := some "TAG"
  isRepeatable := true
  summary := "Additional tag; overrides the tags file. May be repeated"

def depth : Argument where
  long := some "depth"
  valueName := some "N"
  kind := .number
  summary := "Git commit depth to record"

def gitUri : Argument where
  long := some "git-uri"
  valueName := some "URI"
  summary := "Git URI to record"

def gitBranch : Argument where
  long := some "git-branch"
  valueName := some "BRANCH"
  summary := "Git branch to record"

def gitRef : Argument where
  long := some "git-ref"
  valueName := some "REF"
  summary := "Git ref to record"

def moduleSpec : Argument where
  valueName := some "SPEC"
  isRequired := true
  summary := "Module specification to parse"

def noProfile : Argument where
  long := some "no-profile"
  summary := "Leave the \x60/PROFILE\x60 suffix out of the normalized form"

/-- The program itself, in front of a command. -/
def program : Command where
  name := programName
  about := "Per-repository build configuration loader for container image builds"
  options := [logLevel, helpOption, versionOption]
  positionals := []

def showCommand : Command where
  name := "show"
  about := "Print the aggregated configuration of a repository as JSON"
  options := [configFile, containerFile, dockerfile, logLevel, tag, depth, gitUri, gitBranch,
    gitRef, helpOption]
  positionals := [directory]

def validateCommand : Command where
  name := "validate"
  about := "Load and validate the configuration files of a repository"
  options := [configFile, containerFile, logLevel, helpOption]
  positionals := [directory]

def moduleCommand : Command where
  name := "module"
  about := "Parse and normalize a module specification"
  options := [noProfile, logLevel, helpOption]
  positionals := [moduleSpec]

def helpCommand : Command where
  name := "help"
  about := "Print this message or the help of the given subcommand(s)"
  options := []
  positionals := [{
    valueName := some "COMMAND"
    isRepeatable := true
    summary := "Print help for the subcommand(s)" }]

/-- The commands of the program. -/
def commands : List Command :=
  [showCommand, validateCommand, moduleCommand, helpCommand]

/-- The command of a name. -/
def command? (name : String) : Option Command :=
  commands.find? fun c => c.name == name

end ImageBuild.CommandLine
