import ImageBuild.Proofs.Repository.Derivation

/-!
# Open repositories are snapshots

While a repository is open its files go on changing, and in between it is asked for its
labels and its base image.  This module follows a session of such events.

* `access_hasPartsOf`: no access changes what the repository was assembled from.
* `access_readable`, `access_unreadable`: as long as there are no facts, an access keeps what
  the Dockerfile says, or it fails if that cannot be read.
* `Session.after_keeps`: facts that are there stay, whatever becomes of the files.
* `session_is_snapshot`: what an access gives after any events.
-/

namespace ImageBuild

/-- What a Dockerfile with a given text says about its image. -/
def ImageFacts.ofText (content : String) : ImageFacts where
  labels := Dockerfile.labelsOf content
  baseImage := Dockerfile.baseImageOf? content

namespace Repository

/-- What happens while a repository is open: its files are changed in some way, or it is
asked for its facts. -/
inductive Event where
  | change (edit : FileStore → FileStore)
  | access (a : Access)

namespace Event

/-- A file is written, or a directory made.  Where this fails the files stay as they are. -/
def write (path : String) (entry : FileEntry) : Event :=
  .change fun s => (s.write path entry).toOption.getD s

/-- A file or a directory is removed, if there is one. -/
def remove (path : String) : Event :=
  .change fun s => (s.remove path).toOption.getD s

end Event

/-- A repository that is open, with the files as they are at that time. -/
structure Session where
  repository : Repository
  files : FileStore

namespace Session

/-- The session behind an event. -/
def step (σ : Session) : Event → Session
  | .change edit => { σ with files := edit σ.files }
  | .access a => { σ with repository := (σ.repository.access a σ.files).1 }

/-- The session behind some events. -/
def after (σ : Session) (events : List Event) : Session :=
  events.foldl step σ

/-- What an access gives now. -/
def answer (σ : Session) (a : Access) : Except Error Answer :=
  (σ.repository.access a σ.files).2

end Session

/-- The files behind some events. -/
def filesAfter (s : FileStore) : List Event → FileStore
  | [] => s
  | .change edit :: rest => filesAfter (edit s) rest
  | .access _ :: rest => filesAfter s rest

/-- Whenever there was an access, the Dockerfile at a path could not be read as a text. -/
def NeverReadable (path : String) (s : FileStore) : List Event → Prop
  | [] => True
  | .change edit :: rest => NeverReadable path (edit s) rest
  | .access _ :: rest => (∃ fault, s.readText path = .error fault) ∧ NeverReadable path s rest

/-- A repository has the parts that another one was assembled from. -/
structure HasPartsOf (r other : Repository) : Prop where
  configuration : r.configuration = other.configuration
  additionalTags : r.additionalTags = other.additionalTags
  dockerfile : r.dockerfile = other.dockerfile

variable {r : Repository} {s : FileStore} {path : String}

/-! ## One access -/

theorem askSource_hasPartsOf (r : Repository) (source : DockerfileSource) (s : FileStore) :
    (r.askSource source s).1.HasPartsOf r := by
  rcases askSource_cases r source s with
    ⟨_, _, hask⟩ | ⟨_, _, _, _, hask⟩ | ⟨_, _, _, hask⟩
  all_goals
    rw [hask]
    exact ⟨rfl, rfl, rfl⟩

theorem derive_hasPartsOf (r : Repository) (s : FileStore) : (r.derive s).1.HasPartsOf r := by
  unfold derive
  split
  · exact ⟨rfl, rfl, rfl⟩
  · split
    · exact ⟨rfl, rfl, rfl⟩
    · exact askSource_hasPartsOf r _ s

/-- No access changes what a repository was assembled from. -/
theorem access_hasPartsOf (r : Repository) (a : Access) (s : FileStore) :
    (r.access a s).1.HasPartsOf r := by
  have hfacts : (r.facts s).1.HasPartsOf r := by
    obtain ⟨hconfiguration, htags, hdockerfile⟩ := derive_hasPartsOf r s
    unfold Repository.facts
    cases r.derived with
    | some facts => exact ⟨rfl, rfl, rfl⟩
    | none =>
        cases hresult : (r.derive s).2.result with
        | error e => simpa [hresult] using ⟨hconfiguration, htags, hdockerfile⟩
        | ok facts => simpa [hresult] using ⟨hconfiguration, htags, hdockerfile⟩
  rw [access_eq]
  exact hfacts

/-- An access to a Dockerfile that can be read keeps what this says. -/
theorem access_readable {content : String} (h : r.Waiting (.ofFile path))
    (hread : s.readText path = .ok content) (a : Access) :
    (r.access a s).2 = .ok (a.part (.ofText content)) ∧
      (r.access a s).1.derived = some (.ofText content) := by
  have hlabels : (DockerfileSource.ofFile path).labels r.labelCalls s =
      .ok (ImageFacts.ofText content).labels := by
    simp [DockerfileSource.ofFile, hread, Except.map, ImageFacts.ofText]
  have hbase : (DockerfileSource.ofFile path).baseImage r.baseImageCalls s =
      .ok (ImageFacts.ofText content).baseImage := by
    simp [DockerfileSource.ofFile, hread, Except.map, ImageFacts.ofText]
  rcases access_cases h a s with ⟨hfails, -⟩ | ⟨facts, hderives, hkept⟩
  · cases hfails with
    | labels _ hanswer => cases hlabels.symm.trans hanswer
    | baseImage _ _ _ hanswer => cases hbase.symm.trans hanswer
  · have hsame : facts = .ofText content := by
      cases facts
      cases hlabels.symm.trans hderives.labels
      cases hbase.symm.trans hderives.baseImage
      rfl
    rw [← hsame]
    exact ⟨hderives.outcome, hkept⟩

/-- An access to a Dockerfile that cannot be read fails and keeps nothing. -/
theorem access_unreadable {fault : FileFault} (h : r.Waiting (.ofFile path))
    (hread : s.readText path = .error fault) (a : Access) :
    (r.access a s).2 = .error (.dockerfileRead path fault) ∧
      (r.access a s).1.Waiting (.ofFile path) := by
  have hlabels : (DockerfileSource.ofFile path).labels r.labelCalls s = .error fault := by
    simp [DockerfileSource.ofFile, hread, Except.map]
  rcases access_cases h a s with ⟨hfails, hwaiting⟩ | ⟨facts, hderives, -⟩
  · cases hfails with
    | labels _ hanswer houtcome =>
        cases hlabels.symm.trans hanswer
        exact ⟨houtcome, hwaiting⟩
    | baseImage _ _ hfirst => cases hlabels.symm.trans hfirst
  · cases hlabels.symm.trans hderives.labels

/-! ## Sessions -/

namespace Session

theorem after_hasPartsOf (σ : Session) (events : List Event) :
    (σ.after events).repository.HasPartsOf σ.repository := by
  induction events generalizing σ with
  | nil => exact ⟨rfl, rfl, rfl⟩
  | cons e rest ih =>
      cases e with
      | change edit => exact ih (σ.step (.change edit))
      | access a =>
          obtain ⟨hconfiguration, htags, hdockerfile⟩ := ih (σ.step (.access a))
          have hstep := access_hasPartsOf σ.repository a σ.files
          exact ⟨hconfiguration.trans hstep.configuration, htags.trans hstep.additionalTags,
            hdockerfile.trans hstep.dockerfile⟩

/-- Accesses leave the files alone. -/
theorem files_after (σ : Session) (events : List Event) :
    (σ.after events).files = filesAfter σ.files events := by
  induction events generalizing σ with
  | nil => rfl
  | cons e rest ih =>
      cases e with
      | change edit => exact ih (σ.step (.change edit))
      | access a => exact ih (σ.step (.access a))

/-- Facts that are there stay. -/
theorem after_keeps {facts : ImageFacts} {σ : Session}
    (h : σ.repository.derived = some facts) (events : List Event) :
    (σ.after events).repository.derived = some facts := by
  induction events generalizing σ with
  | nil => exact h
  | cons e rest ih =>
      cases e with
      | change edit => exact ih h
      | access a =>
          have hsame : (σ.step (.access a)).repository = σ.repository :=
            congrArg Prod.fst (access_of_derived h a σ.files)
          exact ih (by rw [hsame, h])

/-- As long as the Dockerfile cannot be read, the facts are waited for. -/
theorem after_waiting {σ : Session} (h : σ.repository.Waiting (.ofFile path))
    {events : List Event} (hnever : NeverReadable path σ.files events) :
    (σ.after events).repository.Waiting (.ofFile path) := by
  -- Changes leave the repository alone, and accesses that fail leave it waiting.
  induction events generalizing σ with
  | nil => exact h
  | cons e rest ih =>
      cases e with
      | change edit => exact ih h hnever
      | access a =>
          obtain ⟨⟨fault, hfault⟩, hrest⟩ := hnever
          exact ih (access_unreadable h hfault a).2 hrest

end Session

/-- **An open repository is a snapshot.**  What it was assembled from never changes.  Until an
access finds the Dockerfile readable all of them fail; this one fixes the facts as the Dockerfile
has them at that time, and the later ones give the same, whatever becomes of the files. -/
theorem session_is_snapshot {path : String} {c : Configuration} {tags : Option AdditionalTags}
    {s₁ s₂ : FileStore} {r : Repository} (hflatpak : c.isFlatpak = false)
    (hassembled : (assemble (some (.ofPath path s₁)) (some c) tags s₂).result = .ok r)
    (s : FileStore) (events : List Event) :
    let dockerfile := DockerfileSource.pathOf path s₁
    let σ := Session.after ⟨r, s⟩ events
    (σ.repository.configuration = c ∧ σ.repository.additionalTags = r.additionalTags ∧
      σ.repository.dockerfile = some (.ofFile dockerfile) ∧ σ.files = filesAfter s events) ∧
    (NeverReadable dockerfile s events → ∀ a : Access,
      (∀ fault, σ.files.readText dockerfile = .error fault →
        σ.answer a = .error (.dockerfileRead dockerfile fault) ∧
        (σ.step (.access a)).repository.derived = none) ∧
      (∀ content, σ.files.readText dockerfile = .ok content →
        σ.answer a = .ok (a.part (.ofText content)) ∧
        ∀ (later : List Event) (b : Access),
          ((σ.step (.access a)).after later).answer b = .ok (b.part (.ofText content)))) := by
  intro dockerfile σ
  obtain ⟨hsource, hderived, -, -⟩ := assemble_fields hassembled
  have hconfiguration : r.configuration = c := assemble_configuration hassembled
  have hparts : σ.repository.HasPartsOf r := Session.after_hasPartsOf ⟨r, s⟩ events
  refine ⟨⟨hparts.configuration.trans hconfiguration, hparts.additionalTags,
    hparts.dockerfile.trans hsource, Session.files_after _ events⟩, fun hnever a => ?_⟩
  have hstart : r.Waiting (.ofFile dockerfile) := ⟨hderived, hconfiguration ▸ hflatpak, hsource⟩
  have hwaiting : σ.repository.Waiting (.ofFile dockerfile) :=
    Session.after_waiting (σ := ⟨r, s⟩) hstart hnever
  constructor
  · intro fault hfault
    obtain ⟨hanswer, hstill⟩ := access_unreadable hwaiting hfault a
    exact ⟨hanswer, hstill.derived⟩
  · intro content hcontent
    obtain ⟨hanswer, hkept⟩ := access_readable hwaiting hcontent a
    refine ⟨hanswer, fun later b => ?_⟩
    -- From here on nobody asks for the files.
    have hlater := Session.after_keeps (σ := σ.step (.access a)) hkept later
    exact congrArg Prod.snd (access_of_derived hlater b _)

/-- A repository that is an empty directory. -/
def bareStore : FileStore where
  workingDirectory := []
  entries := [(["repo"], .directory)]

/-- The Dockerfile is missing, then it is no text, and then it is one. -/
def lateDockerfile : List Event :=
  [.access .labels, .write "repo/Dockerfile" .binary, .access .baseImage,
    .write "repo/Dockerfile" (.text "FROM a\n")]

/-- After two accesses that fail, the third one is the first to find a text; it counts also
when the repository has been removed. -/
theorem session_is_snapshot_late :
    ∃ c r, (Configuration.load { directory := "repo" } bareStore).result = .ok c ∧
      c.isFlatpak = false ∧
      (assemble (some (.ofPath "repo" bareStore)) (some c) none bareStore).result = .ok r ∧
      NeverReadable "repo/Dockerfile" bareStore lateDockerfile ∧
      (filesAfter bareStore lateDockerfile).readText "repo/Dockerfile" = .ok "FROM a\n" ∧
      (((Session.after ⟨r, bareStore⟩ lateDockerfile).step (.access .labels)).after
        [.remove "repo"]).answer .baseImage = .ok (.baseImage (some "a")) := by
  have hnever : NeverReadable "repo/Dockerfile" bareStore lateDockerfile :=
    ⟨⟨_, rfl⟩, ⟨_, rfl⟩, trivial⟩
  have hread : (filesAfter bareStore lateDockerfile).readText "repo/Dockerfile" =
      .ok "FROM a\n" := rfl
  have hparts : ∃ c r, (Configuration.load { directory := "repo" } bareStore).result = .ok c ∧
      c.isFlatpak = false ∧
      (assemble (some (.ofPath "repo" bareStore)) (some c) none bareStore).result = .ok r :=
    ⟨_, _, rfl, rfl, rfl⟩
  obtain ⟨c, r, hload, hflatpak, hassembled⟩ := hparts
  refine ⟨c, r, hload, hflatpak, hassembled, hnever, hread, ?_⟩
  have hpath : DockerfileSource.pathOf "repo" bareStore = "repo/Dockerfile" := rfl
  have hbase : Dockerfile.baseImageOf? "FROM a\n" = some "a" := rfl
  have hsnapshot := (session_is_snapshot hflatpak hassembled bareStore lateDockerfile).2
  simp only [hpath, Session.files_after] at hsnapshot
  have hlater := ((hsnapshot hnever .labels).2 "FROM a\n" hread).2 [.remove "repo"] .baseImage
  rw [hlater, Access.part, ImageFacts.ofText, hbase]

end Repository

end ImageBuild
