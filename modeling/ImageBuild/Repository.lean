import ImageBuild.Configuration
import ImageBuild.Dockerfile.Source
import ImageBuild.Tags

/-!
# Repositories

A repository joins the configuration, the additional tags and a source of labels
and base images.  The labels and the base image of its image are derived on the
first access and kept from then on; a derivation that fails is not kept.  For a
Flatpak they follow from the configuration alone.
-/

namespace ImageBuild

/-- The labels and the base image of an image. -/
structure ImageFacts where
  labels : Labels
  baseImage : Option String
deriving DecidableEq

/-- A repository, with what has been derived about its image and the number of
calls that its source has answered. -/
structure Repository where
  dockerfile : Option DockerfileSource
  configuration : Configuration
  additionalTags : AdditionalTags
  derived : Option ImageFacts
  labelCalls : Nat
  baseImageCalls : Nat

namespace Repository

/-- Join the parts of a repository.  A configuration that is not given is read
from the working directory; tags that are not given are those of the container
file, or else of the tags file beside it. -/
def assemble (dockerfile : Option DockerfileSource) (configuration : Option Configuration)
    (tags : Option AdditionalTags) (s : FileStore) : Logged Error Repository := do
  let configuration ← match configuration with
    | some c => pure c
    | none => Configuration.load {} s
  let additionalTags ← match tags with
    | some tags => pure tags
    | none =>
        AdditionalTags.read configuration.directory AdditionalTags.defaultFileName
          configuration.containerTags s
  return {
    dockerfile, configuration, additionalTags
    derived := none, labelCalls := 0, baseImageCalls := 0 }

/-- What follows from the configuration of a Flatpak: its first module names the
image where the configuration does not. -/
def flatpakFacts (c : Configuration) : Logged Error ImageFacts :=
  match c.modules.head? with
  | none =>
      .fail (.missingRequiredField
        "\"compose\" config is missing \"modules\", required for Flatpak")
  | some m => do
      let name := c.flatpakName.getD m.name
      let component := c.flatpakComponent.getD m.name
      Logged.note .debug .repository
        s!"Flatpak image {name} (component {component}) from module {m.toText true}"
      return {
        labels := .ofList [
          (LabelKind.name.preferred, name),
          (LabelKind.component.preferred, component),
          (LabelKind.version.preferred, m.stream)]
        baseImage := c.flatpakBaseImage }

/-- Ask the source, first for the labels and then, if these came, for the base
image. -/
def askSource (r : Repository) (source : DockerfileSource) (s : FileStore) :
    Repository × Except Error ImageFacts :=
  let labels := source.labels r.labelCalls s
  let r := { r with labelCalls := r.labelCalls + 1 }
  match labels with
  | .error fault => (r, .error (.dockerfileRead source.path fault))
  | .ok labels =>
      let baseImage := source.baseImage r.baseImageCalls s
      let r := { r with baseImageCalls := r.baseImageCalls + 1 }
      match baseImage with
      | .error fault => (r, .error (.dockerfileRead source.path fault))
      | .ok baseImage => (r, .ok { labels, baseImage })

/-- Derive the labels and the base image. -/
def derive (r : Repository) (s : FileStore) : Repository × Logged Error ImageFacts :=
  if r.configuration.isFlatpak then (r, flatpakFacts r.configuration)
  else
    match r.dockerfile with
    | none =>
        (r, .fail (.missingRequiredField "a Dockerfile is required for non-Flatpak builds"))
    | some source =>
        let (r, facts) := r.askSource source s
        (r, .ofExcept facts)

/-- The labels and the base image, derived now if they have not been before. -/
def facts (r : Repository) (s : FileStore) : Repository × Logged Error ImageFacts :=
  match r.derived with
  | some facts => (r, pure facts)
  | none =>
      let (r, outcome) := r.derive s
      match outcome.result with
      | .ok facts => ({ r with derived := some facts }, outcome)
      | .error _ => (r, outcome)

/-- The labels of the image. -/
def labels (r : Repository) (s : FileStore) : Repository × Logged Error Labels :=
  let (r, outcome) := r.facts s
  (r, ImageFacts.labels <$> outcome)

/-- The image that the image of the repository starts from. -/
def baseImage (r : Repository) (s : FileStore) : Repository × Logged Error (Option String) :=
  let (r, outcome) := r.facts s
  (r, ImageFacts.baseImage <$> outcome)

end Repository

end ImageBuild
