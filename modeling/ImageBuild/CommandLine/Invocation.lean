import ImageBuild.CommandLine.Arguments

/-!
# Invocations

What a command line asks the program to do.
-/

namespace ImageBuild.CommandLine

/-- Where the files of a repository are. -/
structure RepositoryArguments where
  directory : String
  configFile : String
  containerFile : String
deriving DecidableEq, Repr

/-- The arguments of the command that shows a repository. -/
structure ShowArguments where
  repository : RepositoryArguments
  dockerfile : Option String
  tags : List String
  depth : Option Nat
  gitUri : Option String
  gitBranch : Option String
  gitRef : Option String
deriving DecidableEq, Repr

/-- The arguments of the command that reads a module specification. -/
structure ModuleArguments where
  spec : String
  withProfile : Bool
deriving DecidableEq, Repr

/-- What is to be done. -/
inductive Action where
  | showRepository (arguments : ShowArguments)
  | validateRepository (arguments : RepositoryArguments)
  | readModule (arguments : ModuleArguments)
deriving DecidableEq, Repr

/-- What is to be done, and what of the log is to be seen. -/
structure Invocation where
  logLevel : String
  action : Action
deriving DecidableEq, Repr

namespace Given

/-- Where the files of a repository are. -/
def repository (given : Given) : RepositoryArguments where
  directory := given.valueOr CommandLine.directory
  configFile := given.valueOr CommandLine.configFile
  containerFile := given.valueOr CommandLine.containerFile

/-- A number that is given. -/
def count? (given : Given) (a : Argument) : Option Nat :=
  (given.value? a).bind fun text => (readCount text).toOption

/-- What is to be done by a command. -/
def action (given : Given) (name : String) : Action :=
  if name = showCommand.name then
    .showRepository {
      repository := given.repository
      dockerfile := given.value? CommandLine.dockerfile
      tags := given.values tag
      depth := given.count? depth
      gitUri := given.value? gitUri
      gitBranch := given.value? gitBranch
      gitRef := given.value? gitRef }
  else if name = validateCommand.name then .validateRepository given.repository
  else
    .readModule {
      spec := given.valueOr moduleSpec
      withProfile := !given.isGiven noProfile }

end Given

/-- The help that words behind the command for help ask for. -/
def readHelp : Command → List String → Halt
  | c, [] => .help c true
  | c, word :: rest =>
      match if c.isProgram then command? word else none with
      | some inner => readHelp inner rest
      | none => .misuse { problem := .unknownCommand word, usage := some c.usage }

/-- Read a command line.  What of the log is to be seen can be given in front of
the command or behind it, where it counts more. -/
def readCommandLine (words : List String) : Except Halt Invocation := do
  match ← readWords program .start 0 false words with
  | .done given =>
      if given.isEmpty then throw .nothing
      else halt { problem := .missingCommand, usage := some program.usage }
  | .command front deferred name rest =>
      match command? name with
      | none => throw .nothing
      | some c =>
          if c.name = helpCommand.name then throw (readHelp program rest)
          else
            let given ← readArguments c rest
            match deferred with
            | some m => halt m
            | none => pure ()
            let level := (given.value? logLevel).getD (front.valueOr logLevel)
            return { logLevel := level, action := given.action c.name }

end ImageBuild.CommandLine
