import ImageBuild.Proofs.Configuration.View
import ImageBuild.Proofs.Settings

/-!
# Why configurations cannot be read

Reading a configuration fails for one of three reasons, which are looked for one
after the other: the settings file is unusable, the container file is unusable, or
some of its modules are no module specifications.

* `result_readContainer_cases`: reading the container file fails on an unusable
  file only, and wraps what is wrong with the document.
* `result_load_cases`: the first reason that there is decides the outcome.
* `load_fails_in_order`: the same, as one equivalence for each outcome.
-/

namespace ImageBuild.Configuration

variable {options : Options} {s : FileStore}

/-- The path of the settings file. -/
def Options.settingsPath (options : Options) : String :=
  joinPath options.directory options.settingsFileName

/-- There is something at a path, and it is refused as a container file. -/
def IsContainerUnusable (path : String) (s : FileStore) : Prop :=
  s.holds path = true ∧ Document.IsRefused path s

/-- The container file lists modules by these texts. -/
def ListsModules (options : Options) (s : FileStore) (texts : List String) : Prop :=
  ∃ container compose, IsContainerAt options.containerPath s container ∧
    HasMembers (container.get? "compose") compose ∧
    HasTexts (Json.Members.get? "modules" compose) texts

/-! ## What a file lists -/

theorem IsContainerAt.unique {path : String} {container other : Json}
    (h : IsContainerAt path s container) (hother : IsContainerAt path s other) :
    container = other := by
  rcases h with ⟨hnone, rfl⟩ | ⟨hholds, yaml, document, hyaml, hdocument, rfl⟩
  · rcases hother with ⟨-, rfl⟩ | ⟨hholds, -⟩
    · rfl
    · rw [hnone] at hholds
      cases hholds
  · rcases hother with ⟨hnone, -⟩ | ⟨-, yaml', document', hyaml', hdocument', rfl⟩
    · rw [hnone] at hholds
      cases hholds
    · cases hyaml.symm.trans hyaml'
      cases hdocument.symm.trans hdocument'
      rfl

theorem HasMembers.eq_membersOf {value : Option Json} {members : Json.Members}
    (h : HasMembers value members) : members = membersOf value := by
  cases h with
  | absent | null | object => rfl

theorem HasTexts.eq_textsOf {value : Option Json} {texts : List String}
    (h : HasTexts value texts) : texts = textsOf value := by
  cases h with
  | absent | null => rfl
  | array =>
      simp [textsOf, Json.items?, List.filterMap_map, Function.comp_def, Json.text?]

theorem ListsModules.unique {texts other : List String} (h : ListsModules options s texts)
    (hother : ListsModules options s other) : texts = other := by
  obtain ⟨container, compose, hcontainer, hcompose, htexts⟩ := h
  obtain ⟨container', compose', hcontainer', hcompose', htexts'⟩ := hother
  cases hcontainer.unique hcontainer'
  cases hcompose.eq_membersOf.trans hcompose'.eq_membersOf.symm
  exact htexts.eq_textsOf.trans htexts'.eq_textsOf.symm

/-- As there is one list only, it is the one that has a property if any has. -/
theorem ListsModules.exists_iff {texts : List String} (h : ListsModules options s texts)
    {P : List String → Prop} : (∃ other, ListsModules options s other ∧ P other) ↔ P texts := by
  constructor
  · rintro ⟨other, hother, hP⟩
    rwa [h.unique hother]
  · exact fun hP => ⟨texts, h, hP⟩

/-- The texts that are looked for in a container file are those that it lists. -/
theorem listsModules_of_readContainer {container : Json}
    (h : (readContainer options.containerPath s).result = .ok container) :
    ListsModules options s (moduleTexts container) := by
  obtain ⟨hfile, hformat⟩ := result_readContainer_eq_ok h
  obtain ⟨compose, hcompose, htexts⟩ := exists_hasTexts_moduleTexts hformat
  exact ⟨container, compose, hfile, hcompose, htexts⟩

/-! ## The steps of reading -/

/-- Reading the container file fails on an unusable file, and on nothing else. -/
theorem result_readContainer_cases (path : String) (s : FileStore) :
    (IsContainerUnusable path s ∧
        ∃ e, (Document.ofFile path Document.containerSchema s).result = .error e ∧
          (readContainer path s).result = .error (.containerFile path e.message)) ∨
      (¬ IsContainerUnusable path s ∧
        ∃ container, (readContainer path s).result = .ok container) := by
  unfold readContainer IsContainerUnusable
  by_cases hholds : s.holds path = true
  · simp only [hholds, if_true, true_and, Logged.result_bind, Logged.result_note, Except.bind,
      Logged.result_mapError, Logged.result_pure]
    rcases Document.result_ofFile_container_cases path s with
      ⟨hunusable, e, hresult⟩ | ⟨husable, document, hresult⟩
    · left
      simp [hunusable, hresult, Except.mapError]
    · right
      simp [husable, hresult, Except.mapError]
  · simp [hholds]

/-- Only the module specifications of a container file can be at fault. -/
theorem ofParts_cases (options : Options) (enabled : Bool) (container : Json) :
    (ModuleSpec.failures (moduleTexts container) ≠ [] ∧ ofParts options enabled container =
        .error (.moduleSpecs (ModuleSpec.failures (moduleTexts container)))) ∨
      (ModuleSpec.failures (moduleTexts container) = [] ∧
        ∃ c, ofParts options enabled container = .ok c) := by
  rw [ofParts_eq]
  rcases ModuleSpec.ofTexts_cases (moduleTexts container) with
    ⟨hnone, modules, hmodules⟩ | ⟨hsome, hmodules⟩
  · right
    rw [hmodules]
    exact ⟨hnone, _, rfl⟩
  · left
    rw [hmodules]
    exact ⟨hsome, rfl⟩

theorem result_load (options : Options) (s : FileStore) :
    (load options s).result =
      (Settings.readAutorebuild options.settingsPath s).result.bind fun enabled =>
        (readContainer options.containerPath s).result.bind (ofParts options enabled) := by
  unfold load
  simp only [Logged.result_bind, Logged.result_liftM]
  rfl

/-- **The first reason that there is decides how reading ends.** -/
theorem result_load_cases (options : Options) (s : FileStore) :
    (Settings.IsUnusable options.settingsPath s ∧
        ∃ reason, (load options s).result = .error (.settingsFile options.settingsPath reason)) ∨
      (¬ Settings.IsUnusable options.settingsPath s ∧
        IsContainerUnusable options.containerPath s ∧
        ∃ e, (Document.ofFile options.containerPath Document.containerSchema s).result =
            .error e ∧
          (load options s).result = .error (.containerFile options.containerPath e.message)) ∨
      (¬ Settings.IsUnusable options.settingsPath s ∧
        ¬ IsContainerUnusable options.containerPath s ∧
        ∃ texts, ListsModules options s texts ∧
          ((ModuleSpec.failures texts ≠ [] ∧
              (load options s).result = .error (.moduleSpecs (ModuleSpec.failures texts))) ∨
            (ModuleSpec.failures texts = [] ∧ ∃ c, (load options s).result = .ok c))) := by
  rw [result_load]
  rcases Settings.result_readAutorebuild_cases options.settingsPath s with
    ⟨hunusable, reason, hsettings⟩ | ⟨husable, enabled, hsettings⟩
  · left
    rw [hsettings]
    exact ⟨hunusable, reason, rfl⟩
  · right
    rw [hsettings]
    rcases result_readContainer_cases options.containerPath s with
      ⟨hflawed, e, hdocument, hcontainer⟩ | ⟨hsound, container, hcontainer⟩
    · left
      rw [hcontainer]
      exact ⟨husable, hflawed, e, hdocument, rfl⟩
    · right
      rw [hcontainer]
      exact ⟨husable, hsound, _, listsModules_of_readContainer hcontainer,
        ofParts_cases options enabled container⟩

/-- **Reading a configuration fails with one of three errors, for stated reasons and in a
fixed order.**  Each names the file that it is about, or gathers what is wrong with the
modules in the order of their list. -/
theorem load_fails_in_order (options : Options) (s : FileStore) :
    ((∃ reason, (load options s).result = .error (.settingsFile options.settingsPath reason)) ↔
      Settings.IsUnusable options.settingsPath s) ∧
    (∀ reason,
      (load options s).result = .error (.containerFile options.containerPath reason) ↔
        ¬ Settings.IsUnusable options.settingsPath s ∧
        IsContainerUnusable options.containerPath s ∧
        ∃ e, (Document.ofFile options.containerPath Document.containerSchema s).result =
          .error e ∧ e.message = reason) ∧
    (∀ errors, (load options s).result = .error (.moduleSpecs errors) ↔
      ¬ Settings.IsUnusable options.settingsPath s ∧
      ¬ IsContainerUnusable options.containerPath s ∧
      errors ≠ [] ∧ ∃ texts, ListsModules options s texts ∧ errors = ModuleSpec.failures texts) ∧
    ((∃ c, (load options s).result = .ok c) ↔
      ¬ Settings.IsUnusable options.settingsPath s ∧
      ¬ IsContainerUnusable options.containerPath s ∧
      ∃ texts, ListsModules options s texts ∧ ModuleSpec.failures texts = []) ∧
    ((∃ c, (load options s).result = .ok c) ∨
      (∃ reason, (load options s).result = .error (.settingsFile options.settingsPath reason)) ∨
      (∃ reason,
        (load options s).result = .error (.containerFile options.containerPath reason)) ∨
      ∃ errors, (load options s).result = .error (.moduleSpecs errors)) := by
  rcases result_load_cases options s with
    ⟨hsettings, reason, hload⟩ | ⟨hsettings, hcontainer, e, hdocument, hload⟩ |
      ⟨hsettings, hcontainer, texts, hlists, ⟨hfailures, hload⟩ | ⟨hfailures, c, hload⟩⟩
  · simp [hload, hsettings]
  · simp [hload, hsettings, hcontainer, hdocument]
  · have hnamed (errors : List Error) : ModuleSpec.failures texts = errors ↔
        errors ≠ [] ∧ errors = ModuleSpec.failures texts := by
      constructor
      · rintro rfl
        exact ⟨hfailures, rfl⟩
      · exact fun h => h.2.symm
    simp only [hload, hsettings, hcontainer, hlists.exists_iff]
    refine ⟨by simp, by simp, fun errors => ?_, by simp [hfailures], by simp⟩
    simpa using hnamed errors
  · have hnone (errors : List Error) :
        ¬ (errors ≠ [] ∧ errors = ModuleSpec.failures texts) := by
      rintro ⟨hsome, rfl⟩
      exact hsome hfailures
    simp only [hload, hsettings, hcontainer, hlists.exists_iff, hnone]
    simp [hfailures]

/-- Of two unusable files the settings are reported. -/
example :
    (load {} ⟨[], [([".osbs-repo-config"], .binary), (["container.yaml"], .directory)]⟩).result =
      .error (.settingsFile "./.osbs-repo-config" "stream did not contain valid UTF-8") := by
  rfl

end ImageBuild.Configuration
