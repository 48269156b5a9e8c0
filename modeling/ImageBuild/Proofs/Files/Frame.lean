import ImageBuild.Proofs.Log
import ImageBuild.Repository

/-!
# Which files are looked at

What is read from files depends on nothing but what stands at the paths that are looked at.
Where two stores agree there, the outcomes are the same, their records included.
-/

namespace ImageBuild

variable {s s' : FileStore} {path : String}

namespace FileStore

/-- The same stands at some paths in both stores. -/
def AgreeAt (paths : List String) (s s' : FileStore) : Prop :=
  ∀ path ∈ paths, s'.find path = s.find path

theorem holds_congr (h : s'.find path = s.find path) : s'.holds path = s.holds path := by
  unfold holds
  rw [h]

theorem isDirectory_congr (h : s'.find path = s.find path) :
    s'.isDirectory path = s.isDirectory path := by
  unfold isDirectory
  rw [h]

theorem readText_congr (h : s'.find path = s.find path) : s'.readText path = s.readText path := by
  unfold readText
  rw [h]

/-- What is read stands there. -/
theorem holds_of_readText {content : String} (h : s.readText path = .ok content) :
    s.holds path = true := by
  unfold readText at h
  unfold holds
  cases hfind : s.find path with
  | error fault =>
      rw [hfind] at h
      cases h
  | ok entry => rfl

end FileStore

theorem Settings.readAutorebuild_congr (h : s'.find path = s.find path) :
    readAutorebuild path s' = readAutorebuild path s := by
  unfold readAutorebuild entriesOf
  rw [FileStore.holds_congr h, FileStore.readText_congr h]

namespace Configuration

theorem readContainer_congr (h : s'.find path = s.find path) :
    readContainer path s' = readContainer path s := by
  unfold readContainer Document.ofFile
  rw [FileStore.holds_congr h, FileStore.readText_congr h]

/-- A configuration is read from two files. -/
theorem load_congr {options : Options}
    (hsettings : s'.find (joinPath options.directory options.settingsFileName) =
      s.find (joinPath options.directory options.settingsFileName))
    (hcontainer : s'.find (joinPath options.directory options.containerFileName) =
      s.find (joinPath options.directory options.containerFileName)) :
    load options s' = load options s := by
  unfold load
  rw [Settings.readAutorebuild_congr hsettings, readContainer_congr hcontainer]

end Configuration

/-- Tags that are given are taken without a look at any file. -/
theorem AdditionalTags.read_congr {directory fileName : String} {texts : List String}
    (h : texts.isEmpty = false) : read directory fileName texts s' =
      read directory fileName texts s := by
  simp only [read, h, Bool.false_eq_true, if_false]

namespace Repository

/-- The facts of a repository with a Dockerfile are derived from this file alone. -/
theorem facts_congr {r : Repository} (hsource : r.dockerfile = some (.ofFile path))
    (h : s'.find path = s.find path) : r.facts s' = r.facts s := by
  unfold facts derive
  simp only [hsource, askSource, DockerfileSource.ofFile, FileStore.readText_congr h]

end Repository

end ImageBuild
