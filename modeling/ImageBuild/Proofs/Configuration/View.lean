import ImageBuild.Configuration
import ImageBuild.Proofs.Document
import ImageBuild.Proofs.Files.Frame
import ImageBuild.Proofs.ModuleSpec

/-!
# Configurations as views of container files

Reading a configuration passes over every value that is not of the type it looks
for.  As the schema of container files lets no such value through, nothing is
ever lost: `IsView` says how a configuration and its container file determine
each other.
-/

namespace ImageBuild.Configuration

open Json (Fields IsClosedRecord IsListOf IsOpenRecord IsText Members OrNull)
open Schema (IsContainer IsValidatorOf)

/-! ## What sections hold -/

/-- The members of a section.  One that is absent or null has none. -/
inductive HasMembers : Option Json → Members → Prop where
  | absent : HasMembers none []
  | null : HasMembers (some .null) []
  | object (members : Members) : HasMembers (some (.object members)) members

/-- The texts of a list.  One that is absent or null has none. -/
inductive HasTexts : Option Json → List String → Prop where
  | absent : HasTexts none []
  | null : HasTexts (some .null) []
  | array (texts : List String) : HasTexts (some (.array (texts.map .string))) texts

theorem hasMembers_membersOf {value : Option Json} {fields : Fields}
    (h : ∀ x, value = some x → OrNull (IsClosedRecord fields) x) :
    HasMembers value (membersOf value) := by
  cases value with
  | none => exact .absent
  | some x =>
      rcases h x rfl with rfl | ⟨members, rfl, -⟩
      · exact .null
      · exact .object members

/-- The members of a section are as they are declared. -/
theorem of_get?_membersOf {value : Option Json} {fields : Fields} {name : String}
    {P : Json → Prop} (h : ∀ x, value = some x → OrNull (IsClosedRecord fields) x)
    (hfield : (name, P) ∈ fields) {x : Json}
    (hx : Members.get? name (membersOf value) = some x) : P x := by
  cases value with
  | none => cases hx
  | some held =>
      rcases h held rfl with rfl | hrecord
      · cases hx
      · obtain ⟨members, rfl, -⟩ := id hrecord
        exact hrecord.of_get? hfield hx

theorem hasTexts_textsOf {value : Option Json}
    (h : ∀ x, value = some x → OrNull (IsListOf IsText) x) : HasTexts value (textsOf value) := by
  cases value with
  | none => exact .absent
  | some x =>
      rcases h x rfl with rfl | htexts
      · exact .null
      · obtain ⟨texts, rfl⟩ := Json.isListOf_isText_iff.mp htexts
        have hsame : textsOf (some (.array (texts.map .string))) = texts := by
          simp [textsOf, Json.items?, List.filterMap_map, Function.comp_def, Json.text?]
        rw [hsame]
        exact .array texts

/-- A text is found whenever it is there. -/
theorem map_string_text? {value : Option Json} (h : ∀ x, value = some x → IsText x) :
    (value.bind Json.text?).map .string = value := by
  cases value with
  | none => rfl
  | some x =>
      obtain ⟨s, rfl⟩ := h x rfl
      rfl

/-! ## Views -/

/-- The path of the container file. -/
def Options.containerPath (options : Options) : String :=
  joinPath options.directory options.containerFileName

/-- The container file at a path is absent, or it has a document that the given value
stands for. -/
def IsContainerAt (path : String) (s : FileStore) (container : Json) : Prop :=
  (s.holds path = false ∧ container = .object []) ∨
    (s.holds path = true ∧ ∃ yaml document, s.readText path = .ok yaml ∧
      Yaml.read yaml = .ok document ∧ container = orEmpty document)

/-- A configuration is a faithful view of its container file. -/
structure IsView (options : Options) (s : FileStore) (c : Configuration) : Prop where
  ofFile : IsContainerAt options.containerPath s c.container
  isObject : ∃ members, c.container = .object members
  isEmpty_iff : c.container = .object [] ↔
    s.holds options.containerPath = false ∨ ∃ yaml, s.readText options.containerPath = .ok yaml ∧
      (Yaml.read yaml = .ok .null ∨ Yaml.read yaml = .ok (.object []))
  accepted : ∃ v, IsValidatorOf Document.containerSchema v ∧ v.violations c.container = []
  autorebuild : HasMembers (c.container.get? "autorebuild") c.autorebuild
  modules : ∃ compose, HasMembers (c.container.get? "compose") compose ∧
    HasTexts (Members.get? "modules" compose) (c.modules.map (·.toText true))
  flatpak : ∃ flatpak, HasMembers (c.container.get? "flatpak") flatpak ∧
    (c.isFlatpak = true ↔ flatpak ≠ []) ∧
    Members.get? "base_image" flatpak = c.flatpakBaseImage.map .string ∧
    Members.get? "component" flatpak = c.flatpakComponent.map .string ∧
    Members.get? "name" flatpak = c.flatpakName.map .string
  tags : HasTexts (c.container.get? "tags") c.containerTags

/-- The empty object comes from no file, and from documents without members. -/
theorem IsContainerAt.eq_empty_iff {path : String} {s : FileStore} {container : Json}
    (h : IsContainerAt path s container) :
    container = .object [] ↔ s.holds path = false ∨ ∃ yaml, s.readText path = .ok yaml ∧
      (Yaml.read yaml = .ok .null ∨ Yaml.read yaml = .ok (.object [])) := by
  rcases h with ⟨hholds, rfl⟩ | ⟨hholds, yaml, document, hyaml, hdocument, rfl⟩
  · simp [hholds]
  · simp only [hholds, Bool.true_eq_false, false_or, hyaml, Except.ok.injEq, exists_eq_left',
      hdocument]
    cases document <;> simp [orEmpty]

/-- What the container file is read as: an object of the format of container files. -/
theorem result_readContainer_eq_ok {path : String} {s : FileStore} {container : Json}
    (h : (readContainer path s).result = .ok container) :
    IsContainerAt path s container ∧ IsOpenRecord Schema.containerFields container := by
  have hempty : IsOpenRecord Schema.containerFields (.object []) :=
    ⟨[], rfl, fun _ _ _ x hx => by cases hx⟩
  unfold readContainer at h
  by_cases hholds : s.holds path = true
  · simp only [hholds, if_true, Logged.result_bind_eq_ok_iff, Logged.result_mapError,
      mapError_eq_ok_iff, Document.result_ofFile_container_eq_ok_iff, Logged.result_pure,
      Except.ok.injEq] at h
    obtain ⟨-, -, document, ⟨yaml, hyaml, hdocument, hformat⟩, rfl⟩ := h
    refine ⟨.inr ⟨hholds, yaml, document, hyaml, hdocument, rfl⟩, ?_⟩
    rcases hformat with rfl | ⟨members, rfl, hmembers⟩
    · exact hempty
    · exact ⟨members, rfl, hmembers⟩
  · simp only [hholds, Bool.false_eq_true, if_false, Logged.result_pure, Except.ok.injEq] at h
    subst h
    exact ⟨.inl ⟨Bool.eq_false_iff.mpr hholds, rfl⟩, hempty⟩

/-- A container file of the format of container files is read. -/
theorem result_readContainer_of_read {path yaml : String} {s : FileStore} {document : Json}
    (hyaml : s.readText path = .ok yaml) (hdocument : Yaml.read yaml = .ok document)
    (hformat : IsContainer document) :
    (readContainer path s).result = .ok (orEmpty document) := by
  have hfile : (Document.ofFile path Document.containerSchema s).result = .ok document :=
    Document.result_ofFile_container_eq_ok_iff.mpr ⟨yaml, hyaml, hdocument, hformat⟩
  simp only [readContainer, FileStore.holds_of_readText hyaml, if_true,
    Logged.result_bind_eq_ok_iff, Logged.result_mapError, mapError_eq_ok_iff, hfile]
  exact ⟨(), rfl, document, rfl, rfl⟩

/-- The texts that are looked for in a container file. -/
def moduleTexts (container : Json) : List String :=
  textsOf (Members.get? "modules" (membersOf (container.get? "compose")))

/-- The modules of an object of the format of container files are all found. -/
theorem exists_hasTexts_moduleTexts {container : Json}
    (hformat : IsOpenRecord Schema.containerFields container) :
    ∃ compose, HasMembers (container.get? "compose") compose ∧
      HasTexts (Members.get? "modules" compose) (moduleTexts container) := by
  have hcompose (x : Json) (hx : container.get? "compose" = some x) :=
    hformat.of_get? (List.mem_of_getElem? (i := 1) rfl) hx
  refine ⟨_, hasMembers_membersOf hcompose, hasTexts_textsOf fun x hx => ?_⟩
  exact of_get?_membersOf hcompose (List.mem_of_getElem? (i := 4) rfl) hx

/-- The configuration with given settings, a given container file and the modules of this. -/
def withModules (options : Options) (enabled : Bool) (container : Json)
    (modules : List ModuleSpec) : Configuration :=
  let flatpak := membersOf (container.get? "flatpak")
  let flatpakText (name : String) := (Members.get? name flatpak).bind Json.text?
  { container, modules
    autorebuild := membersOf (container.get? "autorebuild")
    depth := options.depth.getD 0
    gitUri := options.gitUri
    gitBranch := options.gitBranch
    gitRef := options.gitRef
    isFlatpak := !flatpak.isEmpty
    flatpakBaseImage := flatpakText "base_image"
    flatpakComponent := flatpakText "component"
    flatpakName := flatpakText "name"
    directory := options.directory
    isAutorebuildEnabled := enabled }

/-- Only the module specifications can be at fault. -/
theorem ofParts_eq (options : Options) (enabled : Bool) (container : Json) :
    ofParts options enabled container =
      (ModuleSpec.ofTexts (moduleTexts container)).map (withModules options enabled container) := by
  show ((ModuleSpec.ofTexts (moduleTexts container)).bind fun modules =>
    .ok (withModules options enabled container modules)) = _
  cases ModuleSpec.ofTexts (moduleTexts container) with
  | error e => rfl
  | ok modules => rfl

theorem ofParts_eq_ok_iff {options : Options} {enabled : Bool} {container : Json}
    {c : Configuration} : ofParts options enabled container = .ok c ↔
      ∃ modules, ModuleSpec.ofTexts (moduleTexts container) = .ok modules ∧
        withModules options enabled container modules = c := by
  rw [ofParts_eq]
  cases ModuleSpec.ofTexts (moduleTexts container) with
  | error e => simp [Except.map]
  | ok modules => simp [Except.map]

/-- What a configuration takes from an object of the format of container files. -/
theorem isView_of_ofParts {options : Options} {s : FileStore} {enabled : Bool} {container : Json}
    {c : Configuration}
    (hfile : IsContainerAt options.containerPath s container)
    (hformat : IsOpenRecord Schema.containerFields container)
    (h : ofParts options enabled container = .ok c) : IsView options s c := by
  obtain ⟨modules, hmodules, rfl⟩ := ofParts_eq_ok_iff.mp h
  have hautorebuild (x : Json) (hx : container.get? "autorebuild" = some x) :=
    hformat.of_get? (List.mem_of_getElem? (i := 0) rfl) hx
  have hflatpak (x : Json) (hx : container.get? "flatpak" = some x) :=
    hformat.of_get? (List.mem_of_getElem? (i := 2) rfl) hx
  have htags (x : Json) (hx : container.get? "tags" = some x) :=
    hformat.of_get? (List.mem_of_getElem? (i := 7) rfl) hx
  refine ⟨hfile, ?isObject, hfile.eq_empty_iff, ?accepted, hasMembers_membersOf hautorebuild,
    ?modules,
    ⟨_, hasMembers_membersOf hflatpak, ?isFlatpak, ?base, ?component, ?name⟩,
    hasTexts_textsOf htags⟩
  case isObject =>
    obtain ⟨members, rfl, -⟩ := hformat
    exact ⟨members, rfl⟩
  case accepted =>
    exact ⟨_, Schema.isValidatorOf_container,
      (Schema.violations_containerValidator_iff container).mpr (.inr hformat)⟩
  case modules =>
    have hlisted := exists_hasTexts_moduleTexts hformat
    rw [← ModuleSpec.map_toText_of_ofTexts hmodules] at hlisted
    exact hlisted
  case isFlatpak =>
    simp [withModules]
  case base =>
    exact (map_string_text? fun x hx =>
      of_get?_membersOf hflatpak (List.mem_of_getElem? (i := 0) rfl) hx).symm
  case component =>
    exact (map_string_text? fun x hx =>
      of_get?_membersOf hflatpak (List.mem_of_getElem? (i := 4) rfl) hx).symm
  case name =>
    exact (map_string_text? fun x hx =>
      of_get?_membersOf hflatpak (List.mem_of_getElem? (i := 7) rfl) hx).symm

theorem result_load_eq_ok_iff {options : Options} {s : FileStore} {c : Configuration} :
    (load options s).result = .ok c ↔ ∃ enabled container,
      (Settings.readAutorebuild (joinPath options.directory options.settingsFileName) s).result =
        .ok enabled ∧
      (readContainer options.containerPath s).result = .ok container ∧
      ofParts options enabled container = .ok c := by
  unfold load Options.containerPath
  simp only [Logged.result_bind_eq_ok_iff, Logged.result_liftM]
  constructor
  · rintro ⟨enabled, hsettings, container, hcontainer, hparts⟩
    exact ⟨enabled, container, hsettings, hcontainer, hparts⟩
  · rintro ⟨enabled, container, hsettings, hcontainer, hparts⟩
    exact ⟨enabled, hsettings, container, hcontainer, hparts⟩

/-- The modules of a configuration are read again from what they are written as. -/
theorem ofText_toText_of_load {options : Options} {s : FileStore} {c : Configuration}
    (h : (load options s).result = .ok c) {m : ModuleSpec} (hm : m ∈ c.modules) :
    ModuleSpec.ofText (m.toText true) = .ok m := by
  obtain ⟨enabled, container, -, -, hparts⟩ := result_load_eq_ok_iff.mp h
  obtain ⟨modules, hmodules, rfl⟩ := ofParts_eq_ok_iff.mp hparts
  exact ModuleSpec.ofText_toText_of_ofTexts hmodules hm

/-- **A configuration that was read is a faithful view of its container file.** -/
theorem isView_of_load {options : Options} {s : FileStore} {c : Configuration}
    (h : (load options s).result = .ok c) : IsView options s c := by
  obtain ⟨enabled, container, -, hcontainer, hparts⟩ := result_load_eq_ok_iff.mp h
  obtain ⟨hfile, hformat⟩ := result_readContainer_eq_ok hcontainer
  exact isView_of_ofParts hfile hformat hparts

/-- A repository with nothing but a container file, and this with a single module. -/
def moduleStore : FileStore where
  workingDirectory := []
  entries := [(["container.yaml"], .text "compose: \x7bmodules: [a:b/c]\x7d\n")]

def moduleContainer : Json :=
  .object [("compose", .object [("modules", .array [.string "a:b/c"])])]

set_option maxRecDepth 4000 in
theorem read_moduleContainer :
    Yaml.read "compose: \x7bmodules: [a:b/c]\x7d\n" = .ok moduleContainer := by
  cbv

theorem result_readContainer_moduleStore :
    (readContainer (Options.containerPath {}) moduleStore).result = .ok moduleContainer := by
  have hformat : IsContainer moduleContainer :=
    (Schema.violations_containerValidator_iff _).mp rfl
  exact result_readContainer_of_read rfl read_moduleContainer hformat

/-- The view of a container file with a single module. -/
theorem isView_of_load_module :
    ∃ c, (load {} moduleStore).result = .ok c ∧ c.modules = [⟨"a", "b", none, none, some "c"⟩] ∧
      IsView {} moduleStore c := by
  have hmodules : ModuleSpec.ofTexts ["a:b/c"] = .ok [⟨"a", "b", none, none, some "c"⟩] := rfl
  have hlisted : textsOf (Json.Members.get? "modules"
      (membersOf (moduleContainer.get? "compose"))) = ["a:b/c"] := rfl
  obtain ⟨c, hparts, heq⟩ : ∃ c, ofParts {} false moduleContainer = .ok c ∧
      c.modules = [⟨"a", "b", none, none, some "c"⟩] := by
    unfold ofParts
    simp only [hlisted, hmodules]
    exact ⟨_, rfl, rfl⟩
  have hload : (load {} moduleStore).result = .ok c :=
    result_load_eq_ok_iff.mpr
      ⟨false, moduleContainer, rfl, result_readContainer_moduleStore, hparts⟩
  exact ⟨c, hload, heq, isView_of_load hload⟩

end ImageBuild.Configuration
