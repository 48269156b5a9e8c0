import ImageBuild.Proofs.CommandLine.Success
import ImageBuild.Proofs.Files.Frame
import ImageBuild.Proofs.OrderedMap

/-!
# What is shown of a repository

The command that shows a repository prints one object or nothing.  `IsShownFrom` says what
the object is made of, in terms of the configuration, the repository and its accesses;
`shownJson` puts it together.

* `result_describe_eq_ok_iff_isShownFrom`: there is something to show exactly when all its
  parts are there.
* `contains_given_tags`: tags that are given with the command are the only ones.
* `describe_congr`: with such tags, the command looks at no file with tags.
* `show_prints_all_or_nothing`: what is printed, and with which exit code.
-/

namespace ImageBuild.CommandLine

variable {a : ShowArguments} {s s' : FileStore} {words : List String} {level : String}

/-! ## The object that is shown -/

/-- The object that is shown of a repository. -/
def shownJson (c : Configuration) (tags : List String) (isFromList : Bool) (labels : Labels)
    (base : Option String) : Json :=
  .object [
    ("additional_tags", .array (tags.map .string)),
    ("autorebuild_enabled", .bool c.isAutorebuildEnabled),
    ("base_image", .ofText? base),
    ("configuration", c.toJson),
    ("labels", labelsJson labels),
    ("tags_from_container_yaml", .bool isFromList)]

theorem repositoryJson_eq (r : Repository) (facts : ImageFacts) :
    repositoryJson r facts =
      shownJson r.configuration r.additionalTags.tags.toList r.additionalTags.isFromList
        facts.labels facts.baseImage := by
  rfl

/-- The tags that are given with the command, if there are any. -/
inductive GivesTags (a : ShowArguments) (s : FileStore) : Option AdditionalTags → Prop where
  | none (absent : a.tags = []) : GivesTags a s none
  | some (present : a.tags ≠ []) (tags : AdditionalTags)
      (read : (AdditionalTags.read a.repository.directory AdditionalTags.defaultFileName a.tags
        s).result = .ok tags) : GivesTags a s (some tags)

theorem givesTags_iff {tags : Option AdditionalTags} :
    GivesTags a s tags ↔ tags = a.givenTags := by
  unfold ShowArguments.givenTags
  constructor
  · rintro (absent | ⟨present, tags, hread⟩)
    · simp [absent]
    · have hsome : a.tags.isEmpty = false := by simpa using present
      rw [result_read_given hsome] at hread
      simpa [hsome] using (Except.ok.inj hread).symm
  · rintro rfl
    by_cases hnone : a.tags = []
    · simpa [hnone] using GivesTags.none hnone
    · have hsome : a.tags.isEmpty = false := by simpa using hnone
      simpa [hsome] using GivesTags.some hnone _ (result_read_given hsome s)

/-- What is shown of a repository comes from these parts. -/
structure IsShownFrom (a : ShowArguments) (s : FileStore) (c : Configuration) (r : Repository)
    (labels : Labels) (base : Option String) : Prop where
  configuration : (Configuration.load a.options s).result = .ok c
  repository : ∃ tags, GivesTags a s tags ∧
    (Repository.assemble (some (.ofPath (a.dockerfile.getD a.repository.directory) s)) (some c)
      tags s).result = .ok r
  labels : (r.labels s).2.result = .ok labels
  baseImage : ((r.labels s).1.baseImage s).2.result = .ok base

/-- The parts of what is shown, with the facts of the image as one. -/
theorem isShownFrom_iff {c : Configuration} {r : Repository} {labels : Labels}
    {base : Option String} :
    IsShownFrom a s c r labels base ↔ (Configuration.load a.options s).result = .ok c ∧
      (Repository.assemble (some (.ofFile (a.dockerfilePath s))) (some c) a.givenTags
        s).result = .ok r ∧ (r.facts s).2.result = .ok ⟨labels, base⟩ := by
  have hsource : DockerfileSource.ofPath (a.dockerfile.getD a.repository.directory) s =
      .ofFile (a.dockerfilePath s) := rfl
  constructor
  · rintro ⟨hload, ⟨tags, hgiven, hassembled⟩, hlabels, hbase⟩
    rw [givesTags_iff.mp hgiven] at hassembled
    exact ⟨hload, hassembled, Repository.labels_baseImage_iff.mp ⟨hlabels, hbase⟩⟩
  · rintro ⟨hload, hassembled, hfacts⟩
    obtain ⟨hlabels, hbase⟩ := Repository.labels_baseImage_iff.mpr hfacts
    exact ⟨hload, ⟨a.givenTags, givesTags_iff.mpr rfl, hassembled⟩, hlabels, hbase⟩

/-- There is something to show exactly when all its parts are there. -/
theorem result_describe_eq_ok_iff_isShownFrom {value : Json} :
    (describe a s).result = .ok value ↔ ∃ c r labels base, IsShownFrom a s c r labels base ∧
      shownJson c r.additionalTags.tags.toList r.additionalTags.isFromList labels base =
        value := by
  simp only [result_describe_eq_ok_iff, isShownFrom_iff]
  constructor
  · rintro ⟨c, hload, r, hassembled, ⟨labels, base⟩, hfacts, hvalue⟩
    rw [repositoryJson_eq, Repository.assemble_configuration hassembled] at hvalue
    exact ⟨c, r, labels, base, ⟨hload, hassembled, hfacts⟩, hvalue⟩
  · rintro ⟨c, r, labels, base, ⟨hload, hassembled, hfacts⟩, hvalue⟩
    refine ⟨c, hload, r, hassembled, ⟨labels, base⟩, hfacts, ?_⟩
    rwa [repositoryJson_eq, Repository.assemble_configuration hassembled]

/-! ## Tags that are given -/

/-- Tags that are given with the command are the only ones. -/
theorem contains_given_tags {c : Configuration} {r : Repository} {labels : Labels}
    {base : Option String} (hgiven : a.tags ≠ []) (h : IsShownFrom a s c r labels base) :
    r.additionalTags.isFromList = true ∧
      ∀ tag, r.additionalTags.tags.contains tag = true ↔
        tag ∈ a.tags ∧ AdditionalTags.isTag tag.toList = true := by
  obtain ⟨-, hassembled, -⟩ := isShownFrom_iff.mp h
  have hsome : a.tags.isEmpty = false := by simpa using hgiven
  -- Tags that are given go into the repository as they are, so the set is known.
  simp only [Repository.result_assemble, ShowArguments.givenTags, hsome, Bool.false_eq_true,
    if_false, Option.elim_some, Except.map, Except.ok.injEq] at hassembled
  subst hassembled
  refine ⟨rfl, fun tag => ?_⟩
  rw [NameSet.contains_ofList_iff, List.mem_filter]

/-! ## Files that count -/

/-- The paths that are looked at when tags are given with the command. -/
def ShowArguments.readPaths (a : ShowArguments) : List String :=
  [joinPath a.options.directory a.options.settingsFileName,
    joinPath a.options.directory a.options.containerFileName,
    a.dockerfile.getD a.repository.directory,
    joinPath (a.dockerfile.getD a.repository.directory) "Dockerfile"]

/-- The Dockerfile is looked for at paths that count as looked at. -/
theorem ShowArguments.dockerfilePath_mem (a : ShowArguments) (s : FileStore) :
    a.dockerfilePath s ∈ a.readPaths := by
  unfold dockerfilePath DockerfileSource.pathOf
  by_cases hdirectory : s.isDirectory (a.dockerfile.getD a.repository.directory) = true
  · simp [hdirectory, readPaths]
  · simp [hdirectory, readPaths]

theorem ShowArguments.dockerfilePath_congr (h : FileStore.AgreeAt a.readPaths s s') :
    a.dockerfilePath s' = a.dockerfilePath s := by
  unfold dockerfilePath DockerfileSource.pathOf
  rw [FileStore.isDirectory_congr (h _ (by simp [readPaths]))]

/-- With tags of its own, the command looks at no file with tags. -/
theorem describe_congr (hgiven : a.tags ≠ []) (h : FileStore.AgreeAt a.readPaths s s') :
    describe a s' = describe a s := by
  have hsome : a.tags.isEmpty = false := by simpa using hgiven
  have hload : Configuration.load a.options s' = Configuration.load a.options s :=
    Configuration.load_congr (h _ (by simp [ShowArguments.readPaths]))
      (h _ (by simp [ShowArguments.readPaths]))
  have hsource : DockerfileSource.ofPath (a.dockerfile.getD a.repository.directory) s' =
      DockerfileSource.ofPath (a.dockerfile.getD a.repository.directory) s :=
    congrArg DockerfileSource.ofFile (ShowArguments.dockerfilePath_congr h)
  have htags : AdditionalTags.read a.repository.directory AdditionalTags.defaultFileName a.tags
      s' = AdditionalTags.read a.repository.directory AdditionalTags.defaultFileName a.tags s :=
    AdditionalTags.read_congr hsome
  unfold describe
  simp only [hload, hsource, htags, hsome, Bool.false_eq_true, if_false]
  refine Logged.bind_congr fun c _ => Logged.bind_congr fun tags hgivenTags => ?_
  -- The tags are there, so a repository is assembled without a look at the files.
  rw [Logged.result_mapError, mapError_eq_ok_iff, Logged.result_map,
    result_read_given hsome] at hgivenTags
  cases hgivenTags
  refine Logged.bind_congr fun r hassembled => ?_
  rw [Logged.result_mapError, mapError_eq_ok_iff] at hassembled
  -- What is left to be read is the Dockerfile.
  rw [Repository.facts_congr (Repository.assemble_fields hassembled).1
    (h _ (ShowArguments.dockerfilePath_mem a s))]

theorem run_show_congr (hrun : readCommandLine words = .ok ⟨level, .showRepository a⟩)
    (hgiven : a.tags ≠ []) (h : FileStore.AgreeAt a.readPaths s s') :
    run words s' = run words s := by
  rw [run_eq hrun, run_eq hrun]
  show (showRepository a s').outcome level = (showRepository a s).outcome level
  unfold showRepository
  rw [describe_congr hgiven h]

/-! ## What is printed -/

theorem standardOutput_outcome (level : String) (r : Report) :
    (r.outcome level).standardOutput = String.join (r.lines.map (· ++ "\n")) := rfl

/-- What is printed when there is something to show, and when there is not. -/
theorem run_show_cases (hrun : readCommandLine words = .ok ⟨level, .showRepository a⟩)
    (s : FileStore) :
    (∃ value, (describe a s).result = .ok value ∧ (run words s).exitCode = 0 ∧
      (run words s).standardOutput = value.pretty ++ "\n") ∨
    ((¬ ∃ value, (describe a s).result = .ok value) ∧ (run words s).exitCode = 1 ∧
      (run words s).standardOutput = "") := by
  have houtcome : run words s = (showRepository a s).outcome level := run_eq hrun s
  rcases showRepository_cases a s with ⟨value, hresult, hshow⟩ | ⟨failure, hresult, hshow⟩
  · left
    rw [houtcome, hshow]
    exact ⟨value, hresult, rfl, by simp [standardOutput_outcome, String.join]⟩
  · right
    rw [houtcome, hshow]
    exact ⟨by simp [hresult], rfl, by simp [standardOutput_outcome, String.join]⟩

/-- **The object with all parts is printed, or nothing is.**  With tags of its own, the
command shows the ones that are tags among them, whatever the files say.  The log level
counts for neither the object nor the exit code. -/
theorem show_prints_all_or_nothing
    (h : readCommandLine words = .ok ⟨level, .showRepository a⟩) (s : FileStore) :
    ((∃ c r labels base names, IsShownFrom a s c r labels base ∧
        (run words s).exitCode = 0 ∧
        (run words s).standardOutput =
          (shownJson c names r.additionalTags.isFromList labels base).pretty ++ "\n" ∧
        names.Pairwise (· < ·) ∧
        ∀ name, name ∈ names ↔ r.additionalTags.tags.contains name = true) ∨
      ((¬ ∃ c r labels base, IsShownFrom a s c r labels base) ∧
        (run words s).exitCode = 1 ∧ (run words s).standardOutput = "")) ∧
    (a.tags ≠ [] →
      (∀ c r labels base, IsShownFrom a s c r labels base →
        r.additionalTags.isFromList = true ∧
        ∀ tag, r.additionalTags.tags.contains tag = true ↔
          tag ∈ a.tags ∧ AdditionalTags.isTag tag.toList = true) ∧
      ∀ s', FileStore.AgreeAt a.readPaths s s' → run words s' = run words s) ∧
    ∀ words' level', readCommandLine words' = .ok ⟨level', .showRepository a⟩ →
      (run words' s).exitCode = (run words s).exitCode ∧
      (run words' s).standardOutput = (run words s).standardOutput := by
  refine ⟨?_, fun hgiven => ⟨fun c r labels base => contains_given_tags hgiven,
    fun s' => run_show_congr h hgiven⟩, fun words' level' h' => ?_⟩
  · rcases run_show_cases h s with ⟨value, hresult, hcode, houtput⟩ | ⟨hnothing, hcode, houtput⟩
    · obtain ⟨c, r, labels, base, hshown, rfl⟩ := result_describe_eq_ok_iff_isShownFrom.mp hresult
      left
      exact ⟨c, r, labels, base, r.additionalTags.tags.toList, hshown, hcode, houtput,
        NameSet.pairwise_toList _, fun name => NameSet.mem_toList_iff⟩
    · right
      refine ⟨?_, hcode, houtput⟩
      rintro ⟨c, r, labels, base, hshown⟩
      have hdescribed := result_describe_eq_ok_iff_isShownFrom.mpr
        ⟨c, r, labels, base, hshown, rfl⟩
      exact hnothing ⟨_, hdescribed⟩
  · rw [run_eq h, run_eq h']
    exact ⟨rfl, rfl⟩

/-- A command line that gives tags, one of which is none. -/
def taggedWords : List String :=
  ["show", "--tag", "b", "--tag=b-", "repo", "--tag", "a"]

/-- What the command line with tags says. -/
def taggedArguments : ShowArguments :=
  { directoryArguments "repo" with tags := ["b", "b-", "a"] }

/-- A repository with a Dockerfile, and something that stands where tags could. -/
def taggedStore (entry : FileEntry) : FileStore :=
  ⟨[], [(["repo"], .directory), (["repo", "Dockerfile"], .text "FROM fedora"),
    (["repo", "additional-tags"], entry)]⟩

/-- What is shown of the repository, with the tags in order and without the one that is none. -/
def taggedJson : Json :=
  .object [
    ("additional_tags", .array [.string "a", .string "b"]),
    ("autorebuild_enabled", .bool false),
    ("base_image", .string "fedora"),
    ("configuration", .object [
      ("autorebuild", .object []),
      ("autorebuild_enabled", .bool false),
      ("container", .object []),
      ("container_module_specs", .array []),
      ("depth", .number (.int 0)),
      ("flatpak_base_image", .null),
      ("flatpak_component", .null),
      ("flatpak_name", .null),
      ("git_branch", .null),
      ("git_ref", .null),
      ("git_uri", .null),
      ("is_flatpak", .bool false)]),
    ("labels", .object []),
    ("tags_from_container_yaml", .bool true)]

/-- The lines in which it is printed. -/
def taggedLines : List String := [
  "\x7b",
  "  \"additional_tags\": [",
  "    \"a\",",
  "    \"b\"",
  "  ],",
  "  \"autorebuild_enabled\": false,",
  "  \"base_image\": \"fedora\",",
  "  \"configuration\": \x7b",
  "    \"autorebuild\": \x7b\x7d,",
  "    \"autorebuild_enabled\": false,",
  "    \"container\": \x7b\x7d,",
  "    \"container_module_specs\": [],",
  "    \"depth\": 0,",
  "    \"flatpak_base_image\": null,",
  "    \"flatpak_component\": null,",
  "    \"flatpak_name\": null,",
  "    \"git_branch\": null,",
  "    \"git_ref\": null,",
  "    \"git_uri\": null,",
  "    \"is_flatpak\": false",
  "  \x7d,",
  "  \"labels\": \x7b\x7d,",
  "  \"tags_from_container_yaml\": true",
  "\x7d"]

/-- The lines as they are printed. -/
def taggedOutput : String :=
  String.ofList (taggedLines.flatMap fun line => line.toList ++ ['\n'])

set_option maxRecDepth 8000 in
theorem pretty_taggedJson : taggedJson.pretty ++ "\n" = taggedOutput := by
  have hlines : Json.layOut 0 taggedJson ++ ['\n'] =
      taggedLines.flatMap fun line => line.toList ++ ['\n'] := by
    unfold taggedLines
    simp only [List.flatMap_cons, List.flatMap_nil]
    repeat rw [String.toList_ofList]
    cbv
  rw [taggedOutput, ← hlines, String.ofList_append]
  rfl

/-- Whether the file with tags can be read does not count, and only what is a tag is shown. -/
theorem show_prints_all_or_nothing_tagged :
    (run taggedWords (taggedStore (.text "c"))).exitCode = 0 ∧
      (run taggedWords (taggedStore (.text "c"))).standardOutput = taggedOutput ∧
      run taggedWords (taggedStore .binary) = run taggedWords (taggedStore (.text "c")) ∧
      ∃ c r labels base,
        IsShownFrom taggedArguments (taggedStore (.text "c")) c r labels base ∧
        r.additionalTags.isFromList = true ∧
        r.additionalTags.tags.contains "a" = true ∧
        ¬ r.additionalTags.tags.contains "b-" = true ∧
        ¬ r.additionalTags.tags.contains "c" = true := by
  have hread : readCommandLine taggedWords = .ok ⟨"warn", .showRepository taggedArguments⟩ := rfl
  have hgiven : taggedArguments.tags ≠ [] := by simp [taggedArguments]
  have hagree : FileStore.AgreeAt taggedArguments.readPaths (taggedStore (.text "c"))
      (taggedStore .binary) := by
    intro path hpath
    have hpaths : path ∈ ["repo/.osbs-repo-config", "repo/container.yaml", "repo",
      "repo/Dockerfile"] := hpath
    simp only [List.mem_cons, List.not_mem_nil, or_false] at hpaths
    rcases hpaths with rfl | rfl | rfl | rfl
    · rfl
    · rfl
    · rfl
    · rfl
  have hdescribed : (describe taggedArguments (taggedStore (.text "c"))).result =
      .ok taggedJson := rfl
  obtain ⟨hcode, houtput⟩ : (run taggedWords (taggedStore (.text "c"))).exitCode = 0 ∧
      (run taggedWords (taggedStore (.text "c"))).standardOutput = taggedOutput := by
    rcases run_show_cases hread (taggedStore (.text "c")) with ⟨value, hvalue, h⟩ | ⟨hnone, -⟩
    · cases hdescribed.symm.trans hvalue
      rwa [pretty_taggedJson] at h
    · exact absurd ⟨_, hdescribed⟩ hnone
  obtain ⟨hprinted, htags, -⟩ := show_prints_all_or_nothing hread (taggedStore (.text "c"))
  obtain ⟨htags, hcongr⟩ := htags hgiven
  rcases hprinted with ⟨c, r, labels, base, -, hshown, -⟩ | ⟨-, hone, -⟩
  · obtain ⟨hlist, hcontains⟩ := htags c r labels base hshown
    refine ⟨hcode, houtput, hcongr _ hagree, c, r, labels, base, hshown, hlist, ?_, ?_, ?_⟩
    · rw [hcontains]
      exact ⟨by simp [taggedArguments], by decide⟩
    · rw [hcontains]
      rintro ⟨-, htag⟩
      exact absurd htag (by decide)
    · rw [hcontains]
      simp [taggedArguments]
  · exact absurd (hcode.symm.trans hone) (by decide)

end ImageBuild.CommandLine
