import ImageBuild.CommandLine.Invocation
import ImageBuild.Repository

/-!
# What the commands report

Each command is a function of its arguments and the files.  It prints lines, logs
records, and may fail.
-/

namespace ImageBuild.CommandLine

/-- Why a command fails, and what this comes from. -/
structure Failure where
  message : String
  cause : Option String
deriving DecidableEq, Repr

/-- A failure because of an error. -/
def Failure.ofError (e : Error) : Failure :=
  ⟨e.message, e.cause?⟩

/-- What a command prints and logs, and why it fails if it does. -/
structure Report where
  records : List LogRecord
  lines : List String
  failure : Option Failure
deriving DecidableEq, Repr

/-- The options that a configuration is read with. -/
def RepositoryArguments.options (a : RepositoryArguments) : Configuration.Options where
  directory := a.directory
  settingsFileName := a.configFile
  containerFileName := a.containerFile

/-- The options that a repository to be shown is read with. -/
def ShowArguments.options (a : ShowArguments) : Configuration.Options :=
  { a.repository.options with
    depth := a.depth
    gitUri := a.gitUri
    gitBranch := a.gitBranch
    gitRef := a.gitRef }

/-- Labels as a value. -/
def labelsJson (labels : Labels) : Json :=
  .object (labels.entries.map fun (name, value) => (name, .string value))

/-- A repository and what is derived about its image, as a value. -/
def repositoryJson (r : Repository) (facts : ImageFacts) : Json :=
  .ofPairs [
    ("configuration", r.configuration.toJson),
    ("autorebuild_enabled", .bool r.configuration.isAutorebuildEnabled),
    ("additional_tags", .array (r.additionalTags.tags.toList.map .string)),
    ("tags_from_container_yaml", .bool r.additionalTags.isFromList),
    ("labels", labelsJson facts.labels),
    ("base_image", .ofText? facts.baseImage)]

/-- All that is to be shown of a repository. -/
def describe (a : ShowArguments) (s : FileStore) : Logged Failure Json := do
  let directory := a.repository.directory
  let configuration ← (Configuration.load a.options s).mapError fun e =>
    ⟨s!"Failed to load repository configuration from {directory}", some e.message⟩
  let tags ←
    if a.tags.isEmpty then pure none
    else
      (some <$> AdditionalTags.read directory AdditionalTags.defaultFileName a.tags s).mapError
        Failure.ofError
  let source := DockerfileSource.ofPath (a.dockerfile.getD directory) s
  let r ← (Repository.assemble (some source) (some configuration) tags s).mapError
    Failure.ofError
  let facts ← (r.facts s).2.mapError Failure.ofError
  return repositoryJson r facts

/-- Print a repository as one value, or nothing at all. -/
def showRepository (a : ShowArguments) (s : FileStore) : Report :=
  let outcome := describe a s
  match outcome.result with
  | .ok value => ⟨outcome.records, [value.pretty], none⟩
  | .error failure => ⟨outcome.records, [], some failure⟩

/-- The lines about a configuration that has been read. -/
def configurationLines (c : Configuration) : List String :=
  ["[OK] Configuration files loaded successfully",
    s!"   Autorebuild enabled: {c.isAutorebuildEnabled}",
    s!"   Compose modules: {c.modules.length}"] ++
  c.modules.map fun m => s!"     - {m.toText true}"

/-- The lines about the labels of a Flatpak. -/
def flatpakLines (labels : Labels) : List String :=
  "[OK] Flatpak configuration valid" ::
    [LabelKind.name, .component, .version].filterMap fun kind =>
      (labels.find? kind).map fun (name, value) => s!"   {name}: {value}"

/-- The lines about a repository that is valid. -/
def closingLines (r : Repository) : List String :=
  let tags := ", ".intercalate r.additionalTags.tags.toList
  [s!"   Additional tags: {tags}", "[OK] Repository configuration is valid"]

/-- Report on a repository whose configuration has been read. -/
def validateLoaded (c : Configuration) (s : FileStore) : Report :=
  let assembled := Repository.assemble none (some c) none s
  match assembled.result with
  | .error e => ⟨assembled.records, [], some (.ofError e)⟩
  | .ok r =>
      if c.isFlatpak then
        let (r, labels) := r.labels s
        let records := assembled.records ++ labels.records
        match labels.result with
        | .ok labels => ⟨records, flatpakLines labels ++ closingLines r, none⟩
        | .error e =>
            let message := s!"Flatpak configuration invalid: {e.message}"
            ⟨records, [s!"[ERR] {message}"], some ⟨message, none⟩⟩
      else ⟨assembled.records, closingLines r, none⟩

/-- Report line by line whether the files of a repository can be used. -/
def validateRepository (a : RepositoryArguments) (s : FileStore) : Report :=
  let opening := s!"Validating repository: {a.directory}"
  let loaded := Configuration.load a.options s
  match loaded.result with
  | .error e =>
      let message := s!"Configuration loading failed: {e.message}"
      ⟨loaded.records, [opening, s!"[ERR] {message}"], some ⟨message, none⟩⟩
  | .ok c =>
      let rest := validateLoaded c s
      ⟨loaded.records ++ rest.records, opening :: configurationLines c ++ rest.lines,
        rest.failure⟩

/-- Print a module specification and its fields. -/
def readModule (a : ModuleArguments) : Report :=
  match ModuleSpec.ofText a.spec with
  | .error e => ⟨[], [], some (.ofError e)⟩
  | .ok m =>
      let optional (name : String) (value : Option String) : List String :=
        value.toList.map fun text => s!"{name}: {text}"
      ⟨[], [m.toText a.withProfile, s!"name: {m.name}", s!"stream: {m.stream}"] ++
        optional "version" m.version ++ optional "context" m.context ++
        optional "profile" m.profile, none⟩

/-- The report of an action. -/
def Action.report (s : FileStore) : Action → Report
  | .showRepository a => CommandLine.showRepository a s
  | .validateRepository a => CommandLine.validateRepository a s
  | .readModule a => CommandLine.readModule a

/-- The paths that reading the files of a repository may look at. -/
def RepositoryArguments.paths (a : RepositoryArguments) : List String :=
  [a.directory, joinPath a.directory a.configFile, joinPath a.directory a.containerFile,
    joinPath a.directory AdditionalTags.defaultFileName]

/-- The paths that an action may look at. -/
def Action.paths : Action → List String
  | .showRepository a =>
      let dockerfile := a.dockerfile.getD a.repository.directory
      a.repository.paths ++ [dockerfile, joinPath dockerfile "Dockerfile"]
  | .validateRepository a => a.paths
  | .readModule _ => []

end ImageBuild.CommandLine
