import ImageBuild.Proofs.Log
import ImageBuild.Repository

/-!
# Facts are derived once

The labels and the base image of a repository share one derivation.  This module
follows a repository through accesses of both kinds, in any order and with any
files at each of them, while its source may answer or fail anew at each call.

* `access_of_derived`: an access to facts that are there asks nobody.
* `access_cases`: an access to facts that are not there asks for the labels, then
  perhaps for the base image, and either fails or fixes both.
* `run_derives_once`: a whole run consists of failures, one derivation and
  accesses that repeat what it gave.
-/

namespace ImageBuild.Repository

/-- The two ways to ask for the facts of an image. -/
inductive Access where
  | labels
  | baseImage
deriving DecidableEq, Repr

/-- What an access gives. -/
inductive Answer where
  | labels (value : Labels)
  | baseImage (value : Option String)
deriving DecidableEq

/-- The part of the facts that an access asks for. -/
def Access.part : Access → ImageFacts → Answer
  | labels, facts => .labels facts.labels
  | baseImage, facts => .baseImage facts.baseImage

/-- Make an access, with the files as they are at that time. -/
def access (r : Repository) : Access → FileStore → Repository × Except Error Answer
  | .labels, s => ((r.labels s).1, (r.labels s).2.result.map .labels)
  | .baseImage, s => ((r.baseImage s).1, (r.baseImage s).2.result.map .baseImage)

/-- An access with the repository in front of it and behind it. -/
structure Visit where
  access : Access
  files : FileStore
  before : Repository
  outcome : Except Error Answer
  after : Repository

/-- Make accesses one after the other. -/
def run (r : Repository) : List (Access × FileStore) → List Visit
  | [] => []
  | (a, s) :: rest =>
      { access := a, files := s, before := r
        outcome := (r.access a s).2, after := (r.access a s).1 } :: (r.access a s).1.run rest

/-- Accesses that follow each other, the first one on a given repository. -/
def Connected : Repository → List Visit → Prop
  | _, [] => True
  | r, v :: rest => v.before = r ∧ Connected v.after rest

namespace Visit

/-- The access fails with the first fault of the source and keeps nothing.  The
base image is only asked for when the labels came. -/
inductive Fails (source : DockerfileSource) (v : Visit) : Prop where
  | labels (fault : FileFault)
      (answer : source.labels v.before.labelCalls v.files = .error fault)
      (outcome : v.outcome = .error (.dockerfileRead source.path fault))
      (underived : v.after.derived = none)
      (after : v.after = { v.before with labelCalls := v.before.labelCalls + 1 })
  | baseImage (labels : Labels) (fault : FileFault)
      (first : source.labels v.before.labelCalls v.files = .ok labels)
      (answer : source.baseImage v.before.baseImageCalls v.files = .error fault)
      (outcome : v.outcome = .error (.dockerfileRead source.path fault))
      (underived : v.after.derived = none)
      (after : v.after =
        { v.before with
          labelCalls := v.before.labelCalls + 1
          baseImageCalls := v.before.baseImageCalls + 1 })

/-- The access asks the source once for each part of the facts and keeps them. -/
structure Derives (source : DockerfileSource) (facts : ImageFacts) (v : Visit) : Prop where
  labels : source.labels v.before.labelCalls v.files = .ok facts.labels
  baseImage : source.baseImage v.before.baseImageCalls v.files = .ok facts.baseImage
  outcome : v.outcome = .ok (v.access.part facts)
  after : v.after =
    { v.before with
      derived := some facts
      labelCalls := v.before.labelCalls + 1
      baseImageCalls := v.before.baseImageCalls + 1 }

/-- The access gives its part of facts that were there and changes nothing, the
numbers of calls included. -/
structure Repeats (facts : ImageFacts) (v : Visit) : Prop where
  outcome : v.outcome = .ok (v.access.part facts)
  after : v.after = v.before

end Visit

/-! ## One access -/

/-- Both accesses differ only in the part of the facts that they pass on. -/
theorem access_eq (r : Repository) (a : Access) (s : FileStore) :
    r.access a s = ((r.facts s).1, (r.facts s).2.result.map a.part) := by
  cases a with
  | labels =>
      simp only [access, Repository.labels, Logged.result_map]
      cases (r.facts s).2.result with
      | error e => rfl
      | ok facts => rfl
  | baseImage =>
      simp only [access, Repository.baseImage, Logged.result_map]
      cases (r.facts s).2.result with
      | error e => rfl
      | ok facts => rfl

theorem access_of_derived {r : Repository} {facts : ImageFacts} (h : r.derived = some facts)
    (a : Access) (s : FileStore) : r.access a s = (r, .ok (a.part facts)) := by
  rw [access_eq]
  simp only [Repository.facts, h, Logged.result_pure]
  rfl

/-- What is not there is derived. -/
theorem facts_of_underived {r : Repository} (h : r.derived = none) (s : FileStore) :
    (r.facts s).2 = (r.derive s).2 := by
  simp only [Repository.facts, h]
  cases (r.derive s).2.result with
  | error e => rfl
  | ok facts => rfl

theorem facts_of_derived {r : Repository} {facts : ImageFacts} (h : r.derived = some facts)
    (s : FileStore) : r.facts s = (r, pure facts) := by
  simp only [Repository.facts, h]

/-- Facts are kept as they are given. -/
theorem derived_of_facts {r : Repository} {s : FileStore} {facts : ImageFacts}
    (h : (r.facts s).2.result = .ok facts) : (r.facts s).1.derived = some facts := by
  cases hderived : r.derived with
  | some kept =>
      rw [facts_of_derived hderived] at h ⊢
      exact hderived.trans (congrArg some (Except.ok.inj h))
  | none =>
      have hresult : (r.derive s).2.result = .ok facts := by
        rwa [facts_of_underived hderived] at h
      simp [Repository.facts, hderived, hresult]

/-- An access to the labels and then one to the base image give the facts. -/
theorem labels_baseImage_iff {r : Repository} {s : FileStore} {labels : Labels} {base : Option String} :
    ((r.labels s).2.result = .ok labels ∧ ((r.labels s).1.baseImage s).2.result = .ok base) ↔
      (r.facts s).2.result = .ok ⟨labels, base⟩ := by
  have hlabels : (r.labels s).2.result = (r.facts s).2.result.map ImageFacts.labels :=
    Logged.result_map ImageFacts.labels (r.facts s).2
  have hbase : ((r.labels s).1.baseImage s).2.result =
      ((r.facts s).1.facts s).2.result.map ImageFacts.baseImage :=
    Logged.result_map ImageFacts.baseImage ((r.facts s).1.facts s).2
  rw [hlabels, hbase]
  cases hfacts : (r.facts s).2.result with
  | error e => simp [Except.map]
  | ok facts =>
      rw [facts_of_derived (derived_of_facts hfacts) s]
      obtain ⟨labels', base'⟩ := facts
      simp [Except.map]

/-- The three ways in which a source can be asked. -/
theorem askSource_cases (r : Repository) (source : DockerfileSource) (s : FileStore) :
    (∃ fault, source.labels r.labelCalls s = .error fault ∧
      r.askSource source s =
        ({ r with labelCalls := r.labelCalls + 1 },
          .error (.dockerfileRead source.path fault))) ∨
    (∃ labels fault, source.labels r.labelCalls s = .ok labels ∧
      source.baseImage r.baseImageCalls s = .error fault ∧
      r.askSource source s =
        ({ r with labelCalls := r.labelCalls + 1, baseImageCalls := r.baseImageCalls + 1 },
          .error (.dockerfileRead source.path fault))) ∨
    (∃ facts : ImageFacts, source.labels r.labelCalls s = .ok facts.labels ∧
      source.baseImage r.baseImageCalls s = .ok facts.baseImage ∧
      r.askSource source s =
        ({ r with labelCalls := r.labelCalls + 1, baseImageCalls := r.baseImageCalls + 1 },
          .ok facts)) := by
  cases hlabels : source.labels r.labelCalls s with
  | error fault =>
      left
      exact ⟨fault, rfl, by simp [askSource, hlabels]⟩
  | ok labels =>
      right
      cases hbase : source.baseImage r.baseImageCalls s with
      | error fault =>
          left
          exact ⟨labels, fault, rfl, rfl, by simp [askSource, hlabels, hbase]⟩
      | ok baseImage =>
          right
          exact ⟨⟨labels, baseImage⟩, rfl, rfl, by simp [askSource, hlabels, hbase]⟩

/-- What a repository without facts does follows from how its source answers. -/
theorem access_of_underived {r : Repository} {source : DockerfileSource}
    (hderived : r.derived = none) (hflatpak : r.configuration.isFlatpak = false)
    (hsource : r.dockerfile = some source) (a : Access) (s : FileStore) :
    r.access a s =
      match (r.askSource source s).2 with
      | .ok facts =>
          ({ (r.askSource source s).1 with derived := some facts }, .ok (a.part facts))
      | .error e => ((r.askSource source s).1, .error e) := by
  rw [access_eq]
  simp only [Repository.facts, hderived, derive, hflatpak, hsource]
  cases h : (r.askSource source s).2 with
  | error e => simp [Logged.ofExcept, Except.map]
  | ok facts => simp [Logged.ofExcept, Except.map]

/-- A repository that has a source, needs it, and has kept nothing yet. -/
structure Waiting (source : DockerfileSource) (r : Repository) : Prop where
  derived : r.derived = none
  flatpak : r.configuration.isFlatpak = false
  dockerfile : r.dockerfile = some source

/-- A repository that waits goes on waiting, or derives the facts at once. -/
theorem access_cases {r : Repository} {source : DockerfileSource} (h : r.Waiting source)
    (a : Access) (s : FileStore) :
    (Visit.Fails source ⟨a, s, r, (r.access a s).2, (r.access a s).1⟩ ∧
      (r.access a s).1.Waiting source) ∨
    ∃ facts, Visit.Derives source facts ⟨a, s, r, (r.access a s).2, (r.access a s).1⟩ ∧
      (r.access a s).1.derived = some facts := by
  have haccess := access_of_underived h.derived h.flatpak h.dockerfile a s
  rcases askSource_cases r source s with
    ⟨fault, hlabels, hask⟩ | ⟨labels, fault, hlabels, hbase, hask⟩ | ⟨facts, hlabels, hbase, hask⟩
  · rw [hask] at haccess
    left
    rw [haccess]
    exact ⟨.labels fault hlabels rfl h.derived rfl, h.derived, h.flatpak, h.dockerfile⟩
  · rw [hask] at haccess
    left
    rw [haccess]
    exact ⟨.baseImage labels fault hlabels hbase rfl h.derived rfl,
      h.derived, h.flatpak, h.dockerfile⟩
  · rw [hask] at haccess
    right
    rw [haccess]
    exact ⟨facts, ⟨hlabels, hbase, rfl, rfl⟩, rfl⟩

/-! ## Runs -/

/-- A run makes the accesses that it is given. -/
theorem run_requests (accesses : List (Access × FileStore)) (r : Repository) :
    (r.run accesses).map (fun v => (v.access, v.files)) = accesses := by
  induction accesses generalizing r with
  | nil => rfl
  | cons request rest ih =>
      obtain ⟨a, s⟩ := request
      simp only [run, List.map_cons]
      rw [ih]

/-- Each access of a run finds the repository as the one before has left it. -/
theorem run_connected (accesses : List (Access × FileStore)) (r : Repository) :
    Connected r (r.run accesses) := by
  induction accesses generalizing r with
  | nil => trivial
  | cons request rest ih =>
      obtain ⟨a, s⟩ := request
      exact ⟨rfl, ih (r.access a s).1⟩

/-- Once there are facts, all accesses repeat them. -/
theorem run_of_derived {facts : ImageFacts} (accesses : List (Access × FileStore))
    (r : Repository) (h : r.derived = some facts) :
    ∀ v ∈ r.run accesses, v.Repeats facts := by
  induction accesses with
  | nil => simp [run]
  | cons request rest ih =>
      obtain ⟨a, s⟩ := request
      have haccess := access_of_derived h a s
      intro v hv
      rw [run, haccess, List.mem_cons] at hv
      rcases hv with rfl | hv
      · exact ⟨rfl, rfl⟩
      · exact ih v hv

/-- A run of a repository that waits: failures for as long as the source fails,
then the derivation, then repetitions. -/
theorem run_of_waiting {source : DockerfileSource} (accesses : List (Access × FileStore))
    (r : Repository) (h : r.Waiting source) :
    (∀ v ∈ r.run accesses, v.Fails source) ∨
      ∃ failed first later facts, r.run accesses = failed ++ first :: later ∧
        (∀ v ∈ failed, v.Fails source) ∧ first.Derives source facts ∧
        ∀ v ∈ later, v.Repeats facts := by
  -- The induction follows the accesses; a failure leaves a repository that waits.
  induction accesses generalizing r with
  | nil =>
      left
      simp [run]
  | cons request rest ih =>
      obtain ⟨a, s⟩ := request
      rcases access_cases h a s with ⟨hfails, hwaiting⟩ | ⟨facts, hderives, hderived⟩
      · rcases ih _ hwaiting with hall | ⟨failed, first, later, facts, hrun, hfailed, hrest⟩
        · left
          intro v hv
          rw [run, List.mem_cons] at hv
          rcases hv with rfl | hv
          · exact hfails
          · exact hall v hv
        · right
          refine ⟨_ :: failed, first, later, facts, by rw [run, hrun, List.cons_append], ?_, hrest⟩
          intro v hv
          rcases List.mem_cons.mp hv with rfl | hv
          · exact hfails
          · exact hfailed v hv
      · right
        exact ⟨[], _, _, facts, rfl, by simp, hderives,
          run_of_derived rest _ hderived⟩

/-! ## Repositories as they are assembled -/

/-- Around a configuration that is given, only the tags can be at fault, where they have to
be read. -/
theorem result_assemble (dockerfile : Option DockerfileSource) (c : Configuration)
    (tags : Option AdditionalTags) (s : FileStore) :
    (assemble dockerfile (some c) tags s).result =
      (tags.elim (AdditionalTags.read c.directory AdditionalTags.defaultFileName
        c.containerTags s).result .ok).map fun t => ⟨dockerfile, c, t, none, 0, 0⟩ := by
  unfold assemble
  cases tags with
  | some t => rfl
  | none =>
      simp only [Logged.pure_bind, Logged.result_bind, Option.elim_none]
      cases (AdditionalTags.read c.directory AdditionalTags.defaultFileName
        c.containerTags s).result with
      | error e => rfl
      | ok t => rfl

/-- A repository is assembled without facts. -/
theorem assemble_fields {dockerfile : Option DockerfileSource}
    {configuration : Option Configuration} {tags : Option AdditionalTags} {s : FileStore}
    {r : Repository} (h : (assemble dockerfile configuration tags s).result = .ok r) :
    r.dockerfile = dockerfile ∧ r.derived = none ∧ r.labelCalls = 0 ∧ r.baseImageCalls = 0 := by
  unfold assemble at h
  have hparts : ∃ c t, r = ⟨dockerfile, c, t, none, 0, 0⟩ := by
    cases configuration with
    | none | some _ =>
        obtain ⟨c, -, h⟩ := Logged.result_bind_eq_ok_iff.mp h
        cases tags with
        | none | some _ =>
            obtain ⟨t, -, h⟩ := Logged.result_bind_eq_ok_iff.mp h
            exact ⟨c, t, (Except.ok.inj h).symm⟩
  obtain ⟨c, t, rfl⟩ := hparts
  exact ⟨rfl, rfl, rfl, rfl⟩

theorem assemble_configuration {dockerfile : Option DockerfileSource} {c : Configuration}
    {tags : Option AdditionalTags} {s : FileStore} {r : Repository}
    (h : (assemble dockerfile (some c) tags s).result = .ok r) : r.configuration = c := by
  rw [result_assemble] at h
  cases htags : tags.elim (AdditionalTags.read c.directory AdditionalTags.defaultFileName
      c.containerTags s).result .ok with
  | error e =>
      rw [htags] at h
      cases h
  | ok t =>
      rw [htags] at h
      cases h
      rfl

/-- **The facts of an image are derived at most once and never half-way.** -/
theorem run_derives_once {source : DockerfileSource} {configuration : Option Configuration}
    {tags : Option AdditionalTags} {s : FileStore} {r : Repository}
    (hassembled : (assemble (some source) configuration tags s).result = .ok r)
    (hflatpak : r.configuration.isFlatpak = false) (accesses : List (Access × FileStore)) :
    ((r.run accesses).map (fun v => (v.access, v.files)) = accesses ∧
      Connected r (r.run accesses)) ∧
    ((∀ v ∈ r.run accesses, v.Fails source) ∨
      ∃ failed first later facts, r.run accesses = failed ++ first :: later ∧
        (∀ v ∈ failed, v.Fails source) ∧ first.Derives source facts ∧
        ∀ v ∈ later, v.Repeats facts) := by
  obtain ⟨hsource, hderived, -, -⟩ := assemble_fields hassembled
  exact ⟨⟨run_requests accesses r, run_connected accesses r⟩,
    run_of_waiting accesses r ⟨hderived, hflatpak, hsource⟩⟩

/-- A source whose first answer of either kind is a fault. -/
def faltering : DockerfileSource :=
  .scripted "Dockerfile" [.error .notFound, .ok (OrderedMap.ofList [("name", "app")])]
    [.error .notText, .ok (some "fedora"), .ok none]

/-- Accesses of both kinds, none of which finds any file. -/
def fourAccesses : List (Access × FileStore) :=
  [(.labels, ⟨[], []⟩), (.baseImage, ⟨[], []⟩), (.baseImage, ⟨[], []⟩), (.labels, ⟨[], []⟩)]

/-- Two accesses in a row fail on the source that falters, each at another call;
the third one derives the facts, and the last one repeats them. -/
theorem run_derives_once_faltering :
    ∃ r, (assemble (some faltering) none none ⟨[], []⟩).result = .ok r ∧
      r.configuration.isFlatpak = false ∧
      (r.run fourAccesses).map Visit.outcome =
        [.error (.dockerfileRead "Dockerfile" .notFound),
          .error (.dockerfileRead "Dockerfile" .notText), .ok (.baseImage (some "fedora")),
          .ok (.labels (OrderedMap.ofList [("name", "app")]))] ∧
      ((∀ v ∈ r.run fourAccesses, v.Fails faltering) ∨
        ∃ failed first later facts, r.run fourAccesses = failed ++ first :: later ∧
          (∀ v ∈ failed, v.Fails faltering) ∧ first.Derives faltering facts ∧
          ∀ v ∈ later, v.Repeats facts) := by
  refine ⟨_, rfl, rfl, rfl, ?_⟩
  exact (@run_derives_once faltering none none ⟨[], []⟩ _ rfl rfl fourAccesses).2

end ImageBuild.Repository
