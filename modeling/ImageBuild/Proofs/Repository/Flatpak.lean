import ImageBuild.Proofs.Configuration.Failure
import ImageBuild.Proofs.Repository.Derivation

/-!
# Flatpaks are described by their container file

For a Flatpak the labels and the base image follow from the container file: from what it says
about the Flatpak, and from the name and the stream of the first module that it lists.  The
Dockerfile is never asked, and whatever else there is changes nothing.

* `IsSettled.access`: what one access gives, and that it asks nobody.
* `IsSettled.run`: the same of a sequence of accesses.
* `run_flatpak`: the outcomes of all accesses, in terms of the container file, and what they do
  not depend on.
-/

namespace ImageBuild

/-! ## What a container file says -/

/-- What a container file says about a Flatpak. -/
structure FlatpakManifest where
  modules : List String
  name : Option String
  component : Option String
  baseImage : Option String

namespace FlatpakManifest

variable {d d' : FlatpakManifest} {container : Json}

/-- The modules that a container file lists and the texts that its section about the Flatpak
has. -/
structure IsOf (d : FlatpakManifest) (container : Json) : Prop where
  modules : ∃ compose, Configuration.HasMembers (container.get? "compose") compose ∧
    Configuration.HasTexts (Json.Members.get? "modules" compose) d.modules
  flatpak : ∃ flatpak, Configuration.HasMembers (container.get? "flatpak") flatpak ∧
    Json.Members.get? "name" flatpak = d.name.map .string ∧
    Json.Members.get? "component" flatpak = d.component.map .string ∧
    Json.Members.get? "base_image" flatpak = d.baseImage.map .string

/-- The facts of a Flatpak with a given first module: three labels and a base image. -/
structure Describes (d : FlatpakManifest) (m : ModuleSpec) (facts : ImageFacts) : Prop where
  keys : facts.labels.keys = ["com.redhat.component", "name", "version"]
  name : facts.labels.get? "name" = some (d.name.getD m.name)
  component : facts.labels.get? "com.redhat.component" = some (d.component.getD m.name)
  version : facts.labels.get? "version" = some m.stream
  baseImage : facts.baseImage = d.baseImage

/-- The facts as they are put together. -/
def facts (d : FlatpakManifest) (m : ModuleSpec) : ImageFacts where
  labels := .ofList [("name", d.name.getD m.name),
    ("com.redhat.component", d.component.getD m.name), ("version", m.stream)]
  baseImage := d.baseImage

theorem describes_facts (d : FlatpakManifest) (m : ModuleSpec) : d.Describes m (d.facts m) :=
  ⟨rfl, rfl, rfl, rfl, rfl⟩

/-- Lists of modules that have the name and the stream of the first one in common. -/
inductive SameLead : List String → List String → Prop where
  | nil : SameLead [] []
  | cons {first first' : String} {m m' : ModuleSpec} (rest rest' : List String)
      (read : ModuleSpec.ofText first = .ok m) (read' : ModuleSpec.ofText first' = .ok m')
      (name : m.name = m'.name) (stream : m.stream = m'.stream) :
      SameLead (first :: rest) (first' :: rest')

/-- What written lists of modules have in common, the modules do. -/
theorem SameLead.cases_written {ms ms' : List ModuleSpec}
    (h : SameLead (ms.map (·.toText true)) (ms'.map (·.toText true)))
    (hread : ∀ m ∈ ms, ModuleSpec.ofText (m.toText true) = .ok m)
    (hread' : ∀ m ∈ ms', ModuleSpec.ofText (m.toText true) = .ok m) :
    (ms = [] ∧ ms' = []) ∨ ∃ m m' rest rest', ms = m :: rest ∧ ms' = m' :: rest' ∧
      m.name = m'.name ∧ m.stream = m'.stream := by
  -- Either list is empty only if the other one is.
  cases ms with
  | nil =>
      cases ms' with
      | nil => exact .inl ⟨rfl, rfl⟩
      | cons m' rest' => cases h
  | cons m rest =>
      cases ms' with
      | nil => cases h
      | cons m' rest' =>
          rw [List.map_cons, List.map_cons] at h
          cases h with
          | cons _ _ read read' hname hstream =>
              -- What the written modules are read as is what they were written from.
              cases read.symm.trans (hread m List.mem_cons_self)
              cases read'.symm.trans (hread' m' List.mem_cons_self)
              exact .inr ⟨_, _, rest, rest', rfl, rfl, hname, hstream⟩

/-- All that the facts of a Flatpak follow from is the same. -/
structure Agrees (d d' : FlatpakManifest) : Prop where
  modules : SameLead d.modules d'.modules
  name : d.name = d'.name
  component : d.component = d'.component
  baseImage : d.baseImage = d'.baseImage

/-- A container file says only one thing about a Flatpak. -/
theorem IsOf.unique (h : d.IsOf container) (h' : d'.IsOf container) : d = d' := by
  obtain ⟨⟨compose, hcompose, hmodules⟩, ⟨flatpak, hflatpak, hname, hcomponent, hbase⟩⟩ := h
  obtain ⟨⟨compose', hcompose', hmodules'⟩, ⟨flatpak', hflatpak', hname', hcomponent', hbase'⟩⟩ := h'
  have hinjective : Function.Injective (Option.map Json.string) :=
    Option.map_injective fun _ _ => Json.string.inj
  cases hcompose.eq_membersOf.trans hcompose'.eq_membersOf.symm
  cases hflatpak.eq_membersOf.trans hflatpak'.eq_membersOf.symm
  cases d
  cases d'
  cases hmodules.eq_textsOf.trans hmodules'.eq_textsOf.symm
  cases hinjective (hname.symm.trans hname')
  cases hinjective (hcomponent.symm.trans hcomponent')
  cases hinjective (hbase.symm.trans hbase')
  rfl

/-- What a configuration has kept of its container file. -/
def ofConfiguration (c : Configuration) : FlatpakManifest where
  modules := c.modules.map (·.toText true)
  name := c.flatpakName
  component := c.flatpakComponent
  baseImage := c.flatpakBaseImage

theorem isOf_of_load {options : Configuration.Options} {s : FileStore} {c : Configuration}
    (h : (Configuration.load options s).result = .ok c) : (ofConfiguration c).IsOf c.container := by
  have hview := Configuration.isView_of_load h
  obtain ⟨flatpak, hflatpak, -, hbase, hcomponent, hname⟩ := hview.flatpak
  exact ⟨hview.modules, flatpak, hflatpak, hname, hcomponent, hbase⟩

end FlatpakManifest

namespace Repository

variable {r r' : Repository} {c c' : Configuration}

/-! ## The facts of a configuration -/

/-- Without modules a Flatpak has no facts. -/
def missingModules : Error :=
  .missingRequiredField "\"compose\" config is missing \"modules\", required for Flatpak"

theorem result_flatpakFacts_nil (h : c.modules = []) :
    (flatpakFacts c).result = .error missingModules := by
  unfold flatpakFacts
  rw [h]
  rfl

/-- The first module of a Flatpak decides its facts. -/
theorem result_flatpakFacts_cons {m : ModuleSpec} {rest : List ModuleSpec}
    (h : c.modules = m :: rest) :
    (flatpakFacts c).result = .ok ((FlatpakManifest.ofConfiguration c).facts m) := by
  unfold flatpakFacts
  rw [h]
  rfl

/-- The facts depend on no more of the first module than its name and its stream, and on no
other module. -/
theorem result_flatpakFacts_congr
    (h : (FlatpakManifest.ofConfiguration c).Agrees (.ofConfiguration c'))
    (hread : ∀ m ∈ c.modules, ModuleSpec.ofText (m.toText true) = .ok m)
    (hread' : ∀ m ∈ c'.modules, ModuleSpec.ofText (m.toText true) = .ok m) :
    (flatpakFacts c).result = (flatpakFacts c').result := by
  rcases h.modules.cases_written hread hread' with
    ⟨hnone, hnone'⟩ | ⟨m, m', rest, rest', hmodules, hmodules', hname, hstream⟩
  · rw [result_flatpakFacts_nil hnone, result_flatpakFacts_nil hnone']
  · rw [result_flatpakFacts_cons hmodules, result_flatpakFacts_cons hmodules',
      FlatpakManifest.facts, FlatpakManifest.facts, h.name, h.component, h.baseImage, hname,
      hstream]

/-! ## Accesses -/

/-- A repository of a Flatpak that has asked nobody.  If it has facts they are those of its
configuration. -/
structure IsSettled (c : Configuration) (r : Repository) : Prop where
  configuration : r.configuration = c
  labelCalls : r.labelCalls = 0
  baseImageCalls : r.baseImageCalls = 0
  derived : ∀ facts, r.derived = some facts → (flatpakFacts c).result = .ok facts

/-- An access with no call of the source before it or by it. -/
def Visit.AsksNobody (v : Visit) : Prop :=
  v.before.labelCalls = 0 ∧ v.before.baseImageCalls = 0 ∧
    v.after.labelCalls = 0 ∧ v.after.baseImageCalls = 0

/-- An access gives its part of the facts of the configuration. -/
theorem IsSettled.access (h : r.IsSettled c) (hflatpak : c.isFlatpak = true) (a : Access)
    (s : FileStore) :
    (r.access a s).2 = (flatpakFacts c).result.map a.part ∧ (r.access a s).1.IsSettled c := by
  cases hderived : r.derived with
  | some facts =>
      rw [access_of_derived hderived, h.derived facts hderived]
      exact ⟨rfl, h⟩
  | none =>
      -- The derivation leaves the repository as it is, its numbers of calls included.
      have hderive : r.derive s = (r, flatpakFacts c) := by
        rw [derive, h.configuration, if_pos hflatpak]
      rw [access_eq, facts_of_underived hderived, hderive]
      refine ⟨rfl, ?_⟩
      unfold facts
      simp only [hderived, hderive]
      cases hfacts : (flatpakFacts c).result with
      | error e => exact h
      | ok facts =>
          refine ⟨h.configuration, h.labelCalls, h.baseImageCalls, ?_⟩
          rintro _ ⟨⟩
          exact hfacts

/-- All accesses of a run do. -/
theorem IsSettled.run (h : r.IsSettled c) (hflatpak : c.isFlatpak = true)
    (accesses : List (Access × FileStore)) :
    (r.run accesses).map Visit.outcome =
        accesses.map (fun request => (flatpakFacts c).result.map request.1.part) ∧
      ∀ v ∈ r.run accesses, v.AsksNobody := by
  -- Each access leaves a repository that is settled.
  induction accesses generalizing r with
  | nil => exact ⟨rfl, by simp [Repository.run]⟩
  | cons request rest ih =>
      obtain ⟨a, s⟩ := request
      obtain ⟨houtcome, hsettled⟩ := h.access hflatpak a s
      obtain ⟨hrest, hnobody⟩ := ih hsettled
      refine ⟨?_, fun v hv => ?_⟩
      · rw [Repository.run, List.map_cons, List.map_cons, hrest, houtcome]
      · rw [Repository.run, List.mem_cons] at hv
        rcases hv with rfl | hv
        · exact ⟨h.labelCalls, h.baseImageCalls, hsettled.labelCalls, hsettled.baseImageCalls⟩
        · exact hnobody v hv

/-! ## Repositories of Flatpaks -/

/-- A repository as it is assembled, with any source or none, around a configuration of a
Flatpak that has been read. -/
structure IsFlatpak (r : Repository) : Prop where
  loaded : ∃ options s, (Configuration.load options s).result = .ok r.configuration
  isFlatpak : r.configuration.isFlatpak = true
  assembled : ∃ dockerfile configuration tags s,
    (assemble dockerfile configuration tags s).result = .ok r

/-- A repository has no facts when it is assembled. -/
theorem IsFlatpak.isSettled (h : r.IsFlatpak) : r.IsSettled r.configuration := by
  obtain ⟨dockerfile, configuration, tags, s, hassembled⟩ := h.assembled
  obtain ⟨-, hderived, hlabels, hbase⟩ := assemble_fields hassembled
  refine ⟨rfl, hlabels, hbase, fun facts hfacts => ?_⟩
  rw [hderived] at hfacts
  cases hfacts

theorem IsFlatpak.outcomes (h : r.IsFlatpak) (accesses : List (Access × FileStore)) :
    (r.run accesses).map Visit.outcome =
      accesses.map fun request => (flatpakFacts r.configuration).result.map request.1.part :=
  (h.isSettled.run h.isFlatpak accesses).1

theorem IsFlatpak.manifest (h : r.IsFlatpak) :
    (FlatpakManifest.ofConfiguration r.configuration).IsOf r.configuration.container := by
  obtain ⟨options, s, hload⟩ := h.loaded
  exact FlatpakManifest.isOf_of_load hload

theorem IsFlatpak.ofText_toText (h : r.IsFlatpak) :
    ∀ m ∈ r.configuration.modules, ModuleSpec.ofText (m.toText true) = .ok m := by
  obtain ⟨options, s, hload⟩ := h.loaded
  exact fun m hm => Configuration.ofText_toText_of_load hload hm

/-- **A Flatpak is described by its container file alone.**  No access asks the source.  All
accesses fail if no modules are listed, and otherwise all of them give the labels and the base
image that the file and its first module say; neither the source, nor the files at the time of
an access, nor the rest of the modules have a part in it. -/
theorem run_flatpak (h : r.IsFlatpak) :
    (∀ accesses, ∀ v ∈ r.run accesses, v.AsksNobody) ∧
    ∃ d : FlatpakManifest, d.IsOf r.configuration.container ∧
      (d.modules = [] → ∀ accesses, (r.run accesses).map Visit.outcome =
        accesses.map fun _ => .error missingModules) ∧
      (∀ first rest, d.modules = first :: rest → ∃ m facts, ModuleSpec.ofText first = .ok m ∧
        d.Describes m facts ∧ ∀ accesses, (r.run accesses).map Visit.outcome =
          accesses.map fun request => .ok (request.1.part facts)) ∧
      ∀ (r' : Repository) (d' : FlatpakManifest), r'.IsFlatpak →
        d'.IsOf r'.configuration.container → d.Agrees d' →
        ∀ accesses accesses' : List (Access × FileStore),
          accesses.map Prod.fst = accesses'.map Prod.fst →
          (r.run accesses).map Visit.outcome = (r'.run accesses').map Visit.outcome := by
  refine ⟨fun accesses => (h.isSettled.run h.isFlatpak accesses).2, _, h.manifest, ?_, ?_, ?_⟩
  · intro hnone accesses
    rw [h.outcomes, result_flatpakFacts_nil (List.map_eq_nil_iff.mp hnone)]
    rfl
  · intro first rest hmodules
    obtain ⟨m, others, hlisted, rfl, rfl⟩ := List.map_eq_cons_iff.mp hmodules
    refine ⟨m, _, h.ofText_toText m (hlisted ▸ List.mem_cons_self),
      FlatpakManifest.describes_facts _ m, fun accesses => ?_⟩
    rw [h.outcomes, result_flatpakFacts_cons hlisted]
    rfl
  · intro r' d' h' hmanifest hagrees accesses accesses' hkinds
    -- Both runs are put in terms of their configurations, whose facts agree.
    cases hmanifest.unique h'.manifest
    have hfacts := result_flatpakFacts_congr hagrees h.ofText_toText h'.ofText_toText
    have houtcomes := congrArg
      (List.map fun a => (flatpakFacts r.configuration).result.map (Access.part a)) hkinds
    rw [List.map_map, List.map_map] at houtcomes
    rw [h.outcomes, h'.outcomes, ← hfacts]
    exact houtcomes

/-- A repository with nothing but the container file of a Flatpak that has a name. -/
def flatpakStore (modules : String) : FileStore where
  workingDirectory := []
  entries := [(["container.yaml"],
    .text ("compose: \x7bmodules: [" ++ modules ++ "]\x7d\nflatpak: \x7bname: n\x7d\n"))]

def flatpakContainer (modules : List String) : Json :=
  .object [("compose", .object [("modules", .array (modules.map .string))]),
    ("flatpak", .object [("name", .string "n")])]

theorem isOf_flatpakContainer (modules : List String) :
    FlatpakManifest.IsOf ⟨modules, some "n", none, none⟩ (flatpakContainer modules) :=
  ⟨⟨_, .object _, .array modules⟩, _, .object _, rfl, rfl, rfl⟩

theorem exists_isFlatpak {listed : String} {modules : List String}
    (dockerfile : Option DockerfileSource)
    (hread : Yaml.read ("compose: \x7bmodules: [" ++ listed ++ "]\x7d\nflatpak: \x7bname: n\x7d\n") =
      .ok (flatpakContainer modules))
    (hformat : Schema.IsContainer (flatpakContainer modules))
    (hparts : ∃ c, Configuration.ofParts {} false (flatpakContainer modules) = .ok c ∧
      c.isFlatpak = true ∧ c.container = flatpakContainer modules) :
    ∃ r, IsFlatpak r ∧ r.dockerfile = dockerfile ∧
      r.configuration.container = flatpakContainer modules := by
  obtain ⟨c, hc, hflatpak, hcontainer⟩ := hparts
  have hfile : (Configuration.readContainer (Configuration.Options.containerPath {})
      (flatpakStore listed)).result = .ok (flatpakContainer modules) :=
    Configuration.result_readContainer_of_read rfl hread hformat
  have hload := Configuration.result_load_eq_ok_iff.mpr ⟨false, _, rfl, hfile, hc⟩
  refine ⟨⟨dockerfile, c, ⟨.ofList [], true, ""⟩, none, 0, 0⟩,
    ⟨⟨_, _, hload⟩, hflatpak, ?_⟩, rfl, hcontainer⟩
  exact ⟨dockerfile, some c, some ⟨.ofList [], true, ""⟩, ⟨[], []⟩, rfl⟩

set_option maxRecDepth 4000 in
theorem read_flatpakContainer_two :
    Yaml.read ("compose: \x7bmodules: [" ++ "a:b:c/p, d:e" ++
      "]\x7d\nflatpak: \x7bname: n\x7d\n") = .ok (flatpakContainer ["a:b:c/p", "d:e"]) := by
  cbv

set_option maxRecDepth 4000 in
theorem read_flatpakContainer_one :
    Yaml.read ("compose: \x7bmodules: [" ++ "a:b" ++ "]\x7d\nflatpak: \x7bname: n\x7d\n") =
      .ok (flatpakContainer ["a:b"]) := by
  cbv

/-- A source that falters is as good as none, and a first module with a version and a profile and
another module behind it is as good as one that has only its name and its stream. -/
theorem run_flatpak_faltering :
    ∃ r r' facts, IsFlatpak r ∧ IsFlatpak r' ∧
      r.dockerfile = some faltering ∧ r'.dockerfile = none ∧
      r.configuration.container = flatpakContainer ["a:b:c/p", "d:e"] ∧
      r'.configuration.container = flatpakContainer ["a:b"] ∧
      FlatpakManifest.Describes ⟨["a:b:c/p", "d:e"], some "n", none, none⟩
        ⟨"a", "b", some "c", none, some "p"⟩ facts ∧
      (r.run fourAccesses).map Visit.outcome =
        fourAccesses.map (fun request => .ok (request.1.part facts)) ∧
      (r.run fourAccesses).map Visit.outcome = (r'.run fourAccesses).map Visit.outcome := by
  obtain ⟨r, h, hsource, hcontainer⟩ := exists_isFlatpak (some faltering) read_flatpakContainer_two
    ((Schema.violations_containerValidator_iff _).mp rfl) ⟨_, rfl, rfl, rfl⟩
  obtain ⟨r', h', hsource', hcontainer'⟩ := exists_isFlatpak none read_flatpakContainer_one
    ((Schema.violations_containerValidator_iff _).mp rfl) ⟨_, rfl, rfl, rfl⟩
  obtain ⟨-, d, hmanifest, -, hfacts, hsame⟩ := run_flatpak h
  have hd : d = ⟨["a:b:c/p", "d:e"], some "n", none, none⟩ := by
    refine hmanifest.unique ?_
    rw [hcontainer]
    exact isOf_flatpakContainer _
  subst hd
  have hfirst : ModuleSpec.ofText "a:b:c/p" = .ok ⟨"a", "b", some "c", none, some "p"⟩ := rfl
  obtain ⟨m, facts, hm, hdescribes, hrun⟩ := hfacts _ _ rfl
  cases hfirst.symm.trans hm
  have hmanifest' : FlatpakManifest.IsOf ⟨["a:b"], some "n", none, none⟩
      r'.configuration.container := by
    rw [hcontainer']
    exact isOf_flatpakContainer _
  refine ⟨r, r', facts, h, h', hsource, hsource', hcontainer, hcontainer', hdescribes,
    hrun fourAccesses, ?_⟩
  refine hsame r' _ h' hmanifest' ⟨?_, rfl, rfl, rfl⟩ fourAccesses fourAccesses rfl
  exact .cons _ _ hfirst rfl rfl rfl

end Repository

end ImageBuild
