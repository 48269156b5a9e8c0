import ImageBuild.CommandLine.Outcome
import ImageBuild.Proofs.Configuration.Failure
import ImageBuild.Proofs.Repository.Snapshot
import ImageBuild.Proofs.Tags

/-!
# When commands succeed

Both commands about a repository read its configuration and its tags, and derive what
follows for its image.  They ask for these parts each in its own way; here their success
is put in the same terms.
-/

namespace ImageBuild.CommandLine

variable {a : ShowArguments} {s : FileStore} {words : List String} {level : String}

/-! ## Outcomes -/

theorem run_eq {action : Action} (h : readCommandLine words = .ok ⟨level, action⟩)
    (s : FileStore) : run words s = (action.report s).outcome level := by
  unfold run
  rw [h]

theorem exitCode_outcome_eq_zero_iff (level : String) (r : Report) :
    (r.outcome level).exitCode = 0 ↔ r.failure = none := by
  show (if r.failure.isSome then 1 else 0) = 0 ↔ _
  cases r.failure with
  | none => simp
  | some failure => simp

/-! ## Configurations -/

/-- A configuration with what the arguments say about its repository. -/
def ShowArguments.record (a : ShowArguments) (c : Configuration) : Configuration :=
  { c with
    depth := a.depth.getD 0
    gitUri := a.gitUri
    gitBranch := a.gitBranch
    gitRef := a.gitRef }

theorem ofParts_options (a : ShowArguments) (enabled : Bool) (container : Json) :
    Configuration.ofParts a.options enabled container =
      (Configuration.ofParts a.repository.options enabled container).map a.record := by
  rw [Configuration.ofParts_eq, Configuration.ofParts_eq]
  cases ModuleSpec.ofTexts (Configuration.moduleTexts container) with
  | error e => rfl
  | ok modules => rfl

/-- What is only recorded has no part in reading a configuration. -/
theorem result_load_options (a : ShowArguments) (s : FileStore) :
    (Configuration.load a.options s).result =
      (Configuration.load a.repository.options s).result.map a.record := by
  have hsettings : a.options.settingsPath = a.repository.options.settingsPath := rfl
  have hcontainer : a.options.containerPath = a.repository.options.containerPath := rfl
  rw [Configuration.result_load, Configuration.result_load, hsettings, hcontainer]
  cases (Settings.readAutorebuild a.repository.options.settingsPath s).result with
  | error e => rfl
  | ok enabled =>
      cases (Configuration.readContainer a.repository.options.containerPath s).result with
      | error e => rfl
      | ok container => exact ofParts_options a enabled container

/-! ## Tags and facts -/

/-- The tags of the repository of a configuration can be read. -/
def HasTags (c : Configuration) (s : FileStore) : Prop :=
  ∃ tags, (AdditionalTags.read c.directory AdditionalTags.defaultFileName c.containerTags
    s).result = .ok tags

/-- The configuration of a Flatpak says what its image is called. -/
def HasFlatpakFacts (c : Configuration) : Prop :=
  ∃ facts, (Repository.flatpakFacts c).result = .ok facts

/-- Without facts a repository derives them, from its configuration or from its Dockerfile. -/
theorem exists_facts_iff {r : Repository} {path : String} (hderived : r.derived = none)
    (hsource : r.dockerfile = some (.ofFile path)) (s : FileStore) :
    (∃ facts, (r.facts s).2.result = .ok facts) ↔
      (r.configuration.isFlatpak = true → HasFlatpakFacts r.configuration) ∧
      (r.configuration.isFlatpak = false → ∃ content, s.readText path = .ok content) := by
  rw [Repository.facts_of_underived hderived, Repository.derive]
  by_cases hflatpak : r.configuration.isFlatpak = true
  · simp [hflatpak, HasFlatpakFacts]
  · simp only [hflatpak, hsource, Repository.askSource, DockerfileSource.ofFile]
    cases s.readText path with
    | error fault => simp [Except.map]
    | ok content => simp [Except.map]

/-- What can be joined to a repository that has facts. -/
theorem exists_assembled_iff (c : Configuration) (path : String) (s : FileStore) :
    (∃ r, (Repository.assemble (some (.ofFile path)) (some c) none s).result = .ok r ∧
      ∃ facts, (r.facts s).2.result = .ok facts) ↔
      HasTags c s ∧ (c.isFlatpak = true → HasFlatpakFacts c) ∧
        (c.isFlatpak = false → ∃ content, s.readText path = .ok content) := by
  rw [Repository.result_assemble, Option.elim_none, HasTags]
  cases (AdditionalTags.read c.directory AdditionalTags.defaultFileName c.containerTags
      s).result with
  | error e => simp [Except.map]
  | ok tags =>
      have hfacts := exists_facts_iff (r := ⟨some (.ofFile path), c, tags, none, 0, 0⟩) rfl rfl s
      simp [Except.map, hfacts]

/-! ## The command that shows a repository -/

/-- The path of the Dockerfile that a command is about. -/
def ShowArguments.dockerfilePath (a : ShowArguments) (s : FileStore) : String :=
  DockerfileSource.pathOf (a.dockerfile.getD a.repository.directory) s

/-- The tags that are given with the command, if there are any. -/
def ShowArguments.givenTags (a : ShowArguments) : Option AdditionalTags :=
  if a.tags.isEmpty then none
  else some {
    tags := .ofList (a.tags.filter fun text => AdditionalTags.isTag text.toList)
    isFromList := true
    filePath := joinPath a.repository.directory AdditionalTags.defaultFileName }

/-- Tags that are given are taken without a look at any file. -/
theorem result_read_given {directory fileName : String} {texts : List String}
    (h : texts.isEmpty = false) (s : FileStore) :
    (AdditionalTags.read directory fileName texts s).result = .ok {
      tags := .ofList (texts.filter fun text => AdditionalTags.isTag text.toList)
      isFromList := true
      filePath := joinPath directory fileName } := by
  have hgiven : texts ≠ [] := by simpa using h
  rw [AdditionalTags.read_given hgiven]

/-- A repository is described when its configuration, its parts and its facts are there. -/
theorem result_describe_eq_ok_iff {value : Json} :
    (describe a s).result = .ok value ↔
      ∃ c, (Configuration.load a.options s).result = .ok c ∧
      ∃ r, (Repository.assemble (some (.ofFile (a.dockerfilePath s))) (some c) a.givenTags
        s).result = .ok r ∧
      ∃ facts, (r.facts s).2.result = .ok facts ∧ repositoryJson r facts = value := by
  have hsource : DockerfileSource.ofPath (a.dockerfile.getD a.repository.directory) s =
      .ofFile (a.dockerfilePath s) := rfl
  unfold describe ShowArguments.givenTags
  by_cases hnone : a.tags.isEmpty = true
  · simp only [hnone, if_true, Logged.pure_bind, Logged.result_bind_eq_ok_iff,
      Logged.result_mapError, mapError_eq_ok_iff, hsource, Logged.result_pure, Except.ok.injEq]
  · simp only [hnone, Bool.false_eq_true, if_false, Logged.result_bind_eq_ok_iff,
      Logged.result_mapError, Logged.result_map, result_read_given (Bool.eq_false_iff.mpr hnone),
      Except.map, mapError_eq_ok_iff, hsource, Logged.result_pure, Except.ok.injEq,
      exists_eq_left']

/-- A repository is described and printed, or nothing is. -/
theorem showRepository_cases (a : ShowArguments) (s : FileStore) :
    (∃ value, (describe a s).result = .ok value ∧
      showRepository a s = ⟨(describe a s).records, [value.pretty], none⟩) ∨
    (∃ failure, (describe a s).result = .error failure ∧
      showRepository a s = ⟨(describe a s).records, [], some failure⟩) := by
  cases hresult : (describe a s).result with
  | error failure =>
      right
      exact ⟨failure, rfl, by simp [showRepository, hresult]⟩
  | ok value =>
      left
      exact ⟨value, rfl, by simp [showRepository, hresult]⟩

theorem exitCode_show (h : readCommandLine words = .ok ⟨level, .showRepository a⟩)
    (s : FileStore) :
    (run words s).exitCode = 0 ↔ ∃ value, (describe a s).result = .ok value := by
  rw [run_eq h, exitCode_outcome_eq_zero_iff]
  show (showRepository a s).failure = none ↔ _
  rcases showRepository_cases a s with ⟨value, hresult, hshow⟩ | ⟨failure, hresult, hshow⟩
  · simp [hresult, hshow]
  · simp [hresult, hshow]

/-- A command about a directory, without tags or a Dockerfile of its own, succeeds when the
configuration, the tags and the facts are there. -/
theorem exitCode_show_plain (h : readCommandLine words = .ok ⟨level, .showRepository a⟩)
    (htags : a.tags = []) (hdockerfile : a.dockerfile = none) (s : FileStore) :
    (run words s).exitCode = 0 ↔
      ∃ c, (Configuration.load a.repository.options s).result = .ok c ∧ HasTags c s ∧
        (c.isFlatpak = true → HasFlatpakFacts c) ∧
        (c.isFlatpak = false → ∃ content,
          s.readText (DockerfileSource.pathOf a.repository.directory s) = .ok content) := by
  have hgiven : a.givenTags = none := by
    rw [ShowArguments.givenTags, htags]
    rfl
  have hpath : a.dockerfilePath s = DockerfileSource.pathOf a.repository.directory s := by
    rw [ShowArguments.dockerfilePath, hdockerfile]
    rfl
  have hdescribed : (∃ value, (describe a s).result = .ok value) ↔
      ∃ c, (Configuration.load a.options s).result = .ok c ∧
      ∃ r, (Repository.assemble (some (.ofFile
        (DockerfileSource.pathOf a.repository.directory s))) (some c) none s).result = .ok r ∧
      ∃ facts, (r.facts s).2.result = .ok facts := by
    simp only [result_describe_eq_ok_iff, hgiven, hpath]
    constructor
    · rintro ⟨_, c, hload, r, hassembled, facts, hfacts, -⟩
      exact ⟨c, hload, r, hassembled, facts, hfacts⟩
    · rintro ⟨c, hload, r, hassembled, facts, hfacts⟩
      exact ⟨_, c, hload, r, hassembled, facts, hfacts, rfl⟩
  rw [exitCode_show h, hdescribed]
  simp only [exists_assembled_iff]
  rw [result_load_options]
  -- What is recorded about the repository changes none of the conditions.
  cases (Configuration.load a.repository.options s).result with
  | error e => simp [Except.map]
  | ok c =>
      simp only [Except.map, Except.ok.injEq, exists_eq_left']
      exact Iff.rfl

/-! ## The command that validates a repository -/

/-- The labels of a Flatpak follow from its configuration. -/
theorem result_labels_flatpak {r : Repository} (hderived : r.derived = none)
    (hflatpak : r.configuration.isFlatpak = true) (s : FileStore) :
    (r.labels s).2.result =
      (Repository.flatpakFacts r.configuration).result.map ImageFacts.labels := by
  show (ImageFacts.labels <$> (r.facts s).2).result = _
  rw [Logged.result_map, Repository.facts_of_underived hderived, Repository.derive, if_pos hflatpak]

theorem validateLoaded_failure_eq_none_iff (c : Configuration) (s : FileStore) :
    (validateLoaded c s).failure = none ↔
      HasTags c s ∧ (c.isFlatpak = true → HasFlatpakFacts c) := by
  have hassembled := Repository.result_assemble none c none s
  unfold HasTags HasFlatpakFacts
  cases htags : (AdditionalTags.read c.directory AdditionalTags.defaultFileName c.containerTags
      s).result with
  | error e =>
      rw [Option.elim_none, htags] at hassembled
      simp [validateLoaded, hassembled, Except.map]
  | ok tags =>
      rw [Option.elim_none, htags] at hassembled
      -- Only a Flatpak is asked for its labels.
      by_cases hflatpak : c.isFlatpak = true
      · have hlabels := result_labels_flatpak (r := ⟨none, c, tags, none, 0, 0⟩) rfl hflatpak s
        cases hfacts : (Repository.flatpakFacts c).result with
        | error e =>
            rw [hfacts] at hlabels
            simp [validateLoaded, hassembled, Except.map, hflatpak, hlabels]
        | ok facts =>
            rw [hfacts] at hlabels
            simp [validateLoaded, hassembled, Except.map, hflatpak, hlabels]
      · simp [validateLoaded, hassembled, Except.map, hflatpak]

theorem exitCode_validate {b : RepositoryArguments}
    (h : readCommandLine words = .ok ⟨level, .validateRepository b⟩) (s : FileStore) :
    (run words s).exitCode = 0 ↔
      ∃ c, (Configuration.load b.options s).result = .ok c ∧ HasTags c s ∧
        (c.isFlatpak = true → HasFlatpakFacts c) := by
  rw [run_eq h, exitCode_outcome_eq_zero_iff]
  show (validateRepository b s).failure = none ↔ _
  unfold validateRepository
  cases hload : (Configuration.load b.options s).result with
  | error e => simp [hload]
  | ok c => simp [hload, validateLoaded_failure_eq_none_iff]

/-! ## Both commands -/

/-- **Showing and validating agree on whether a repository can be used.**  Only the Dockerfile
of a repository that is no Flatpak counts for the one and not for the other. -/
theorem exitCode_show_iff_validate {words' : List String} {level' : String}
    (hshow : readCommandLine words = .ok ⟨level, .showRepository a⟩)
    (hvalidate : readCommandLine words' = .ok ⟨level', .validateRepository a.repository⟩)
    (htags : a.tags = []) (hdockerfile : a.dockerfile = none) (s : FileStore) :
    ((run words s).exitCode = 0 → (run words' s).exitCode = 0) ∧
    ∀ c, (Configuration.load a.repository.options s).result = .ok c →
      (c.isFlatpak = true → ((run words s).exitCode = 0 ↔ (run words' s).exitCode = 0)) ∧
      (c.isFlatpak = false → ((run words s).exitCode = 0 ↔
        (run words' s).exitCode = 0 ∧ ∃ content,
          s.readText (if s.isDirectory a.repository.directory
            then joinPath a.repository.directory "Dockerfile"
            else a.repository.directory) = .ok content)) := by
  have hshown := exitCode_show_plain hshow htags hdockerfile s
  have hvalid := exitCode_validate hvalidate s
  refine ⟨fun hzero => ?_, fun c hload => ⟨fun hflatpak => ?_, fun hplain => ?_⟩⟩
  · obtain ⟨c, hload, htags, hfacts, -⟩ := hshown.mp hzero
    exact hvalid.mpr ⟨c, hload, htags, hfacts⟩
  · rw [hshown, hvalid, hload]
    simp [hflatpak]
  · rw [hshown, hvalid, hload]
    simp [hplain, DockerfileSource.pathOf]

/-- The arguments that name a directory and nothing else. -/
def directoryArguments (directory : String) : ShowArguments where
  repository := ⟨directory, Settings.defaultFileName, Configuration.containerFileName⟩
  dockerfile := none
  tags := []
  depth := none
  gitUri := none
  gitBranch := none
  gitRef := none

/-- A repository without a Dockerfile, which is no Flatpak, can be validated and not shown. -/
theorem exitCode_show_iff_validate_bare :
    readCommandLine ["show", "repo"] =
        .ok ⟨"warn", .showRepository (directoryArguments "repo")⟩ ∧
      readCommandLine ["validate", "repo"] =
        .ok ⟨"warn", .validateRepository (directoryArguments "repo").repository⟩ ∧
      (run ["validate", "repo"] Repository.bareStore).exitCode = 0 ∧
      (run ["show", "repo"] Repository.bareStore).exitCode ≠ 0 := by
  have hshow : readCommandLine ["show", "repo"] =
      .ok ⟨"warn", .showRepository (directoryArguments "repo")⟩ := rfl
  have hvalidate : readCommandLine ["validate", "repo"] =
      .ok ⟨"warn", .validateRepository (directoryArguments "repo").repository⟩ := rfl
  have hload : ∃ c, (Configuration.load (directoryArguments "repo").repository.options
      Repository.bareStore).result = .ok c ∧ c.isFlatpak = false := ⟨_, rfl, rfl⟩
  have hread : Repository.bareStore.readText "repo/Dockerfile" = .error .notFound := rfl
  refine ⟨hshow, hvalidate, rfl, fun hzero => ?_⟩
  obtain ⟨c, hload, hplain⟩ := hload
  have hagrees := exitCode_show_iff_validate hshow hvalidate rfl rfl Repository.bareStore
  obtain ⟨-, content, hcontent⟩ := ((hagrees.2 c hload).2 hplain).mp hzero
  exact absurd (hread.symm.trans hcontent) (by simp)

end ImageBuild.CommandLine
