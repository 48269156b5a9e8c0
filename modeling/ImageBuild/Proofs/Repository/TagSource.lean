import Mathlib
import ImageBuild.Proofs.Configuration.View
import ImageBuild.Proofs.Repository.Derivation
import ImageBuild.Proofs.Tags

/-!
# Where the tags of a repository come from

A repository that is given no tags takes those that its container file lists.  Only when the
container file lists none, whether or not they would be tags, the file with tags beside it is
looked at.

* `hasTexts_containerTags`: what the container file of a configuration lists.
* `read_nil_cases`: the tags of a file, and when they cannot be had.
* `assemble_picks_tags`: the one source of the tags of a repository.
-/

namespace ImageBuild

namespace Configuration

variable {value : Option Json} {texts : List String} {items : List Json}

/-- A list that is there and not empty is listed text by text. -/
theorem HasTexts.of_array (h : HasTexts (some (.array items)) texts) :
    items = texts.map .string := by
  cases h with
  | array => rfl

theorem HasTexts.eq_nil_iff (h : HasTexts value texts) :
    texts = [] ↔ ∀ items, value = some (.array items) → items = [] := by
  cases h with
  | absent => simp
  | null => simp
  | array texts => simp

theorem hasTexts_containerTags {options : Options} {s : FileStore} {c : Configuration}
    (h : (load options s).result = .ok c) :
    HasTexts (c.container.get? "tags") c.containerTags := by
  obtain ⟨enabled, container, -, hcontainer, hparts⟩ := result_load_eq_ok_iff.mp h
  obtain ⟨hfile, hformat⟩ := result_readContainer_eq_ok hcontainer
  exact (isView_of_ofParts hfile hformat hparts).tags

end Configuration

namespace AdditionalTags

variable {directory fileName : String} {s : FileStore}

/-- Without a list, tags are those of the file; it fails on one that is there and cannot be
read. -/
theorem read_nil_cases (directory fileName : String) (s : FileStore) :
    (∀ a, (read directory fileName [] s).result = .ok a → a.isFromList = false ∧
      ∀ text, a.tags.contains text = true ↔ ∃ content,
        s.readText (joinPath directory fileName) = .ok content ∧
          text ∈ trimmedLines content ∧ IsTagText text) ∧
    ∀ e, (read directory fileName [] s).result = .error e ↔
      s.holds (joinPath directory fileName) = true ∧ ∃ fault,
        s.readText (joinPath directory fileName) = .error fault ∧ e = .file fault := by
  cases hread : s.readText (joinPath directory fileName) with
  | ok content =>
      rw [read_text hread]
      refine ⟨fun a ha => ?_, fun e => by simp⟩
      cases ha
      simp only [Except.ok.injEq, exists_eq_left', true_and]
      exact fun text => contains_selected_iff
  | error fault =>
      by_cases hholds : s.holds (joinPath directory fileName) = true
      · rw [read_unreadable hholds hread]
        refine ⟨fun a ha => ?_, fun e => ?_⟩
        · cases ha
        · simp [hholds, eq_comm]
      · rw [read_absent (Bool.eq_false_iff.mpr hholds)]
        refine ⟨fun a ha => ?_, fun e => by simp [hholds]⟩
        cases ha
        simp [NameSet.contains_ofList_iff]

end AdditionalTags

namespace Repository

open AdditionalTags (IsTagText defaultFileName trimmedLines)

variable {c : Configuration} {dockerfile : Option DockerfileSource} {s : FileStore}

/-- What is assembled has the tags that are read for the configuration. -/
theorem result_assemble_read (dockerfile : Option DockerfileSource) (c : Configuration)
    (s : FileStore) :
    (assemble dockerfile (some c) none s).result =
      (AdditionalTags.read c.directory defaultFileName c.containerTags s).result.map
        fun t => ⟨dockerfile, c, t, none, 0, 0⟩ := by
  rw [result_assemble, Option.elim_none]

/-- **A repository has exactly one source of tags.**  A container file that lists some decides
alone, whatever stands at the place of the file with tags; otherwise that file does. -/
theorem assemble_picks_tags {options : Configuration.Options} {s₀ : FileStore}
    (hload : (Configuration.load options s₀).result = .ok c)
    (dockerfile : Option DockerfileSource) :
    (∀ items, c.container.get? "tags" = some (.array items) → items ≠ [] →
      ∃ tags : NameSet,
        (∀ text, tags.contains text = true ↔ .string text ∈ items ∧ IsTagText text) ∧
        ∀ s, ∃ r, (assemble dockerfile (some c) none s).result = .ok r ∧
          r.additionalTags.tags = tags ∧ r.additionalTags.isFromList = true) ∧
    ((∀ items, c.container.get? "tags" = some (.array items) → items = []) → ∀ s,
      (∀ r, (assemble dockerfile (some c) none s).result = .ok r →
        r.additionalTags.isFromList = false ∧
        ∀ text, r.additionalTags.tags.contains text = true ↔ ∃ content,
          s.readText (joinPath c.directory defaultFileName) = .ok content ∧
            text ∈ trimmedLines content ∧ IsTagText text) ∧
      ∀ e, (assemble dockerfile (some c) none s).result = .error e ↔
        s.holds (joinPath c.directory defaultFileName) = true ∧ ∃ fault,
          s.readText (joinPath c.directory defaultFileName) = .error fault ∧
            e = .file fault) := by
  have htexts := Configuration.hasTexts_containerTags hload
  constructor
  · intro items hitems hne
    rw [hitems] at htexts
    have hlisted : items = c.containerTags.map .string := htexts.of_array
    have hgiven : c.containerTags ≠ [] := by
      intro hnone
      rw [hnone] at hlisted
      exact hne hlisted
    refine ⟨.ofList (c.containerTags.filter fun text => AdditionalTags.isTag text.toList),
      fun text => ?_, fun s => ?_⟩
    · rw [AdditionalTags.contains_selected_iff, hlisted]
      simp
    · rw [result_assemble_read, AdditionalTags.read_given hgiven]
      exact ⟨_, rfl, rfl, rfl⟩
  · intro hnone s
    have hempty : c.containerTags = [] := htexts.eq_nil_iff.mpr hnone
    obtain ⟨hok, herror⟩ := AdditionalTags.read_nil_cases c.directory defaultFileName s
    rw [result_assemble_read, hempty]
    cases hread : (AdditionalTags.read c.directory defaultFileName [] s).result with
    | ok a =>
        refine ⟨fun r hr => ?_, fun e => ?_⟩
        · cases hr
          exact hok a hread
        · rw [← herror e, hread]
          simp [Except.map]
    | error fault =>
        refine ⟨fun r hr => ?_, fun e => ?_⟩
        · cases hr
        · rw [← herror e, hread]
          simp [Except.map]

/-- A repository with two tags in its container file, one of which is none. -/
def listedStore (entry : FileEntry) : FileStore where
  workingDirectory := []
  entries := [(["container.yaml"], .text "tags: [b-, a]\n"), (["additional-tags"], entry)]

def listedContainer : Json :=
  .object [("tags", .array [.string "b-", .string "a"])]

set_option maxRecDepth 4000 in
theorem read_listedContainer : Yaml.read "tags: [b-, a]\n" = .ok listedContainer := by
  cbv

theorem result_load_listedStore (entry : FileEntry) :
    ∃ c, (Configuration.load {} (listedStore entry)).result = .ok c ∧
      c.container = listedContainer := by
  have hformat : Schema.IsContainer listedContainer :=
    (Schema.violations_containerValidator_iff _).mp rfl
  have hcontainer : (Configuration.readContainer (Configuration.Options.containerPath {})
      (listedStore entry)).result = .ok listedContainer :=
    Configuration.result_readContainer_of_read rfl read_listedContainer hformat
  exact ⟨_, Configuration.result_load_eq_ok_iff.mpr ⟨false, _, rfl, hcontainer, rfl⟩, rfl⟩

/-- A repository without a container file, and with something that stands where tags could. -/
def unlistedStore (entry : FileEntry) : FileStore where
  workingDirectory := []
  entries := [(["additional-tags"], entry)]

/-- A file with tags that cannot be read matters only when no tags are listed. -/
theorem assemble_picks_tags_unreadable :
    (∃ c r, (Configuration.load {} (listedStore .binary)).result = .ok c ∧
      (assemble none (some c) none (listedStore .binary)).result = .ok r ∧
      r.additionalTags.isFromList = true ∧ r.additionalTags.tags.contains "a" = true ∧
      ¬ r.additionalTags.tags.contains "b-" = true) ∧
    ∃ c, (Configuration.load {} (unlistedStore .binary)).result = .ok c ∧
      (assemble none (some c) none (unlistedStore .binary)).result =
        .error (.file .notText) := by
  constructor
  · obtain ⟨c, hload, hcontainer⟩ := result_load_listedStore .binary
    have hlisted : c.container.get? "tags" = some (.array [.string "b-", .string "a"]) := by
      rw [hcontainer]
      rfl
    obtain ⟨tags, htags, hassembled⟩ :=
      (assemble_picks_tags hload none).1 _ hlisted (List.cons_ne_nil _ _)
    obtain ⟨r, hr, rfl, hlist⟩ := hassembled (listedStore .binary)
    refine ⟨c, r, hload, hr, hlist, ?_, ?_⟩
    · rw [htags]
      exact ⟨by simp, by decide⟩
    · rw [htags]
      exact fun htag => absurd htag.2 (by decide)
  · have hparts : ∃ c, (Configuration.load {} (unlistedStore .binary)).result = .ok c ∧
        c.container = .object [] ∧ c.directory = "." := ⟨_, rfl, rfl, rfl⟩
    obtain ⟨c, hload, hcontainer, hdirectory⟩ := hparts
    have hnone : ∀ items, c.container.get? "tags" = some (.array items) → items = [] := by
      intro items hitems
      rw [hcontainer] at hitems
      cases hitems
    refine ⟨c, hload, ?_⟩
    rw [((assemble_picks_tags hload none).2 hnone (unlistedStore .binary)).2, hdirectory]
    exact ⟨rfl, _, rfl, rfl⟩

end Repository

end ImageBuild
