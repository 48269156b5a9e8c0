import ImageBuild.Document
import ImageBuild.ModuleSpec
import ImageBuild.Settings

/-!
# The build configuration of a repository

The configuration consists of the settings and of the container file, a document
with a schema of its own.  All files are read at once, and any failure is one of
the whole configuration.
-/

namespace ImageBuild

/-- The name of the container file. -/
def Configuration.containerFileName : String := "container.yaml"

/-- Where a configuration is read from, and what is known about its repository. -/
structure Configuration.Options where
  directory : String := "."
  settingsFileName : String := Settings.defaultFileName
  containerFileName : String := Configuration.containerFileName
  depth : Option Nat := none
  gitUri : Option String := none
  gitBranch : Option String := none
  gitRef : Option String := none
deriving DecidableEq, Repr

/-- The build configuration of a repository. -/
structure Configuration where
  container : Json
  autorebuild : Json.Members
  depth : Nat
  gitUri : Option String
  gitBranch : Option String
  gitRef : Option String
  modules : List ModuleSpec
  isFlatpak : Bool
  flatpakBaseImage : Option String
  flatpakComponent : Option String
  flatpakName : Option String
  directory : String
  isAutorebuildEnabled : Bool

namespace Configuration

/-- The members of an object; any other value has none. -/
def membersOf (value : Option Json) : Json.Members :=
  (value.bind Json.members?).getD []

/-- The texts in an array; any other value has none. -/
def textsOf (value : Option Json) : List String :=
  ((value.bind Json.items?).getD []).filterMap Json.text?

/-- A document without a value stands for an empty object. -/
def orEmpty : Json → Json
  | .null => .object []
  | value => value

/-- The container file at a path; without one the empty object stands for it. -/
def readContainer (path : String) (s : FileStore) : Logged Error Json := do
  if s.holds path then
    Logged.note .debug .configuration s!"Loading container configuration from {path}"
    let document ← (Document.ofFile path Document.containerSchema s).mapError fun e =>
      Error.containerFile path e.message
    return orEmpty document
  else return .object []

/-- The configuration with given settings and a given container file. -/
def ofParts (options : Options) (isAutorebuildEnabled : Bool) (container : Json) :
    Except Error Configuration := do
  let compose := membersOf (container.get? "compose")
  let flatpak := membersOf (container.get? "flatpak")
  let flatpakText (name : String) := (Json.Members.get? name flatpak).bind Json.text?
  let modules ← ModuleSpec.ofTexts (textsOf (Json.Members.get? "modules" compose))
  return {
    container
    autorebuild := membersOf (container.get? "autorebuild")
    depth := options.depth.getD 0
    gitUri := options.gitUri
    gitBranch := options.gitBranch
    gitRef := options.gitRef
    modules
    isFlatpak := !flatpak.isEmpty
    flatpakBaseImage := flatpakText "base_image"
    flatpakComponent := flatpakText "component"
    flatpakName := flatpakText "name"
    directory := options.directory
    isAutorebuildEnabled }

/-- Read a configuration: the settings, then the container file, and then what
this says. -/
def load (options : Options) (s : FileStore) : Logged Error Configuration := do
  let enabled ←
    Settings.readAutorebuild (joinPath options.directory options.settingsFileName) s
  let container ← readContainer (joinPath options.directory options.containerFileName) s
  ofParts options enabled container

/-- The tags that the container file gives. -/
def containerTags (c : Configuration) : List String :=
  textsOf (c.container.get? "tags")

end Configuration

/-- A module specification as a value. -/
def ModuleSpec.toJson (m : ModuleSpec) : Json :=
  .ofPairs [
    ("name", .string m.name),
    ("stream", .string m.stream),
    ("version", .ofText? m.version),
    ("context", .ofText? m.context),
    ("profile", .ofText? m.profile)]

/-- A configuration as a value; its directory is no part of it. -/
def Configuration.toJson (c : Configuration) : Json :=
  .ofPairs [
    ("container", c.container),
    ("autorebuild", .object c.autorebuild),
    ("depth", .ofNat c.depth),
    ("git_uri", .ofText? c.gitUri),
    ("git_branch", .ofText? c.gitBranch),
    ("git_ref", .ofText? c.gitRef),
    ("container_module_specs", .array (c.modules.map ModuleSpec.toJson)),
    ("is_flatpak", .bool c.isFlatpak),
    ("flatpak_base_image", .ofText? c.flatpakBaseImage),
    ("flatpak_component", .ofText? c.flatpakComponent),
    ("flatpak_name", .ofText? c.flatpakName),
    ("autorebuild_enabled", .bool c.isAutorebuildEnabled)]

end ImageBuild
