import Mathlib
import ImageBuild.Proofs.Document.Misfits
import ImageBuild.Proofs.Schema.Locations

/-!
# What the violations of a container file point at

The schema of container files knows all members by their names.  So its violations point at
parts that a document has, over declared names only, and as these names are ordinary keys, a
path in writing stands for one place.

* `places_told_apart`: places over ordinary keys in writing, for any schema.
* `declares_containerNames`: the names that the schema declares.
* `violations_containerValidator_cases`: what is wrong at the top level, and what below.
* `container_violations_located`: the places of violations, and their writing.
-/

namespace ImageBuild

open Json (Members)
open Schema (autorebuildMembers composeMembers containerDocument containerValidator
  flatpakMembers goMembers goModuleDocument platformMembers sectionDocuments sections)

/-! ## Declared names -/

namespace Json

/-- A schema declares properties of a name, at the top level or further in. -/
def Declares (schema : Json) (name : String) : Prop :=
  ∃ path x, schema.LeadsTo (path ++ [.key "properties", .key name]) x

theorem LeadsTo.trans {x y z : Json} {p q : ViolationPath} (h : x.LeadsTo p y)
    (hyz : y.LeadsTo q z) : x.LeadsTo (p ++ q) z := by
  induction h with
  | here => exact hyz
  | member hmem rest ih => exact .member hmem (ih hyz)
  | item hitem rest ih => exact .item hitem (ih hyz)

/-- The properties of a part of a schema are declared. -/
theorem LeadsTo.declares {schema : Json} {path : ViolationPath} {members named : Members}
    (h : schema.LeadsTo path (.object members)) (hnamed : ("properties", .object named) ∈ members)
    {name : String} (hname : name ∈ named.map Prod.fst) : schema.Declares name := by
  obtain ⟨⟨_, x⟩, hx, rfl⟩ := List.mem_map.mp hname
  exact ⟨path, x, h.trans (.member hnamed (.member hx (.here x)))⟩

end Json

/-- The names that the schema of container files knows members by. -/
def containerNames : List String :=
  [sections, autorebuildMembers, composeMembers, flatpakMembers, goMembers,
    platformMembers].flatMap (fun named => named.map Prod.fst) ++ ["module", "path"]

/-- The schema of a section is a part of the schema of container files. -/
theorem leadsTo_section {name : String} {x : Json} (h : (name, x) ∈ sectionDocuments) :
    containerDocument.LeadsTo [.key "properties", .key name] x :=
  .member (List.mem_of_getElem? (i := 2) rfl) (.member h (.here x))

theorem leadsTo_goModule :
    containerDocument.LeadsTo [.key "definitions", .key "go_module"] goModuleDocument :=
  .member (List.mem_of_getElem? (i := 1) rfl)
    (.member (List.mem_of_getElem? (i := 0) rfl) (.here _))

theorem declares_containerNames : ∀ name ∈ containerNames, containerDocument.Declares name := by
  intro name hname
  -- Where properties stand in a part of the schema, and which names they have.
  have hdeclares {path : ViolationPath} {members named : Members} {i : Nat} {names : List String}
      (h : containerDocument.LeadsTo path (.object members))
      (hnamed : members[i]? = some ("properties", .object named))
      (hnames : named.map Prod.fst = names) (hname : name ∈ names) :
      containerDocument.Declares name :=
    h.declares (List.mem_of_getElem? hnamed) (hnames ▸ hname)
  simp only [containerNames, List.flatMap_cons, List.flatMap_nil, List.append_nil,
    List.mem_append, or_assoc] at hname
  rcases hname with hname | hname | hname | hname | hname | hname | hname
  · exact hdeclares (i := 2) (.here _) rfl rfl hname
  · exact hdeclares (i := 1) (leadsTo_section (List.mem_of_getElem? (i := 0) rfl)) rfl rfl hname
  · exact hdeclares (i := 1) (leadsTo_section (List.mem_of_getElem? (i := 1) rfl)) rfl rfl hname
  · exact hdeclares (i := 1) (leadsTo_section (List.mem_of_getElem? (i := 2) rfl)) rfl rfl hname
  · exact hdeclares (i := 1) (leadsTo_section (List.mem_of_getElem? (i := 3) rfl)) rfl rfl hname
  · exact hdeclares (i := 1) (leadsTo_section (List.mem_of_getElem? (i := 5) rfl)) rfl rfl hname
  · exact hdeclares (i := 1) leadsTo_goModule rfl rfl hname

theorem arePlain_containerNames : ArePlain containerNames := by
  unfold ArePlain
  decide

theorem isOrdinaryKey_of_mem_containerNames :
    ∀ name ∈ containerNames, Violation.IsOrdinaryKey name := by
  decide

theorem namesOnly_containerNames : containerValidator.namesOnly containerNames = true := by
  decide

/-! ## The top level -/

/-- Something is wrong with a document itself only if it is no object and not null, and then
nothing else is; in an object the members are at fault. -/
theorem violations_containerValidator_cases (d : Json) :
    (d = .null ∧ containerValidator.violations d = []) ∨
    ((∃ members, d = .object members) ∧
      ∀ w ∈ containerValidator.violations d, ∃ name path, w.path = .key name :: path) ∨
    ((d ≠ .null ∧ ∀ members, d ≠ .object members) ∧
      ∃ message, containerValidator.violations d = [⟨[], message⟩]) := by
  cases d with
  | null => exact .inl ⟨rfl, rfl⟩
  | object members =>
      refine .inr (.inl ⟨⟨members, rfl⟩, fun w hw => ?_⟩)
      have hroot : containerValidator.root =
          .all [.type [.null, .object], .properties sections] := rfl
      rw [Validator.violations, hroot, violations_openRecord] at hw
      obtain ⟨name, s, x, hname, -, hw⟩ := exists_of_mem_propertyViolations hw
      have hmem : name ∈ containerNames :=
        List.mem_append_left _ (List.mem_append_left _ (List.mem_map_of_mem hname))
      obtain ⟨v, -, rfl⟩ := List.mem_map.mp hw
      refine ⟨name, v.path, ?_⟩
      rw [Violation.under, arePlain_containerNames name hmem]
      rfl
  | bool b => exact .inr (.inr ⟨by simp, _, rfl⟩)
  | number n => exact .inr (.inr ⟨by simp, _, rfl⟩)
  | string s => exact .inr (.inr ⟨by simp, _, rfl⟩)
  | array items => exact .inr (.inr ⟨by simp, _, rfl⟩)

namespace Document

/-! ## Places in reports -/

variable {v w : Violation}

theorem location_eq_of_isOrdinary (h : Violation.IsOrdinary v.path) :
    location v = if v.path = [] then "at top level" else v.pathString :=
  if_congr (Violation.renderPath_eq_empty_iff h) rfl rfl

/-- The words for the top level stand for the empty path, or else for a key of this spelling. -/
theorem location_eq_atTopLevel_iff_of_isOrdinary (h : Violation.IsOrdinary v.path) :
    location v = "at top level" ↔ v.path = [] ∨ v.path = [.key "at top level"] := by
  have hwords : Violation.IsOrdinary [.key "at top level"] := by simp [Violation.IsOrdinaryKey]
  have hwritten : Violation.renderPath [.key "at top level"] = "at top level" := by decide
  rw [location_eq_of_isOrdinary h]
  split
  · rename_i hpath
    exact iff_of_true rfl (.inl hpath)
  · rename_i hpath
    rw [or_iff_right hpath]
    constructor
    · exact fun hsame => Violation.eq_of_renderPath_eq h hwords (hsame.trans hwritten.symm)
    · intro hkey
      rw [Violation.pathString, hkey, hwritten]

/-- **Places over ordinary keys are told apart by their writing.**  Violations whose paths are
written alike have the same path.  Nothing is written for the empty path only, which is reported as
the top level; any other place is reported as it is written. -/
theorem places_told_apart (hv : Violation.IsOrdinary v.path) (hw : Violation.IsOrdinary w.path) :
    (v.pathString = w.pathString ↔ v.path = w.path) ∧
    (v.pathString = "" ↔ v.path = []) ∧
    location v = (if v.path = [] then "at top level" else v.pathString) := by
  refine ⟨⟨Violation.eq_of_renderPath_eq hv hw, ?_⟩, Violation.renderPath_eq_empty_iff hv,
    location_eq_of_isOrdinary hv⟩
  intro hpath
  rw [Violation.pathString, hpath, ← Violation.pathString]

/-- A point inside a key may be taken for the end of one. -/
example : Violation.renderPath [.key "a.b", .index 0] =
    Violation.renderPath [.key "a", .key "b", .index 0] := by
  decide

/-- A place over keys that look like parts of an index. -/
def numberedPlace : Violation where
  path := [.key "1", .index 1, .key "1]"]
  message := "1 is not of type \"string\""

/-- A place over a number, which is told apart from a key with the same digits. -/
def indexedPlace : Violation where
  path := [.index 1, .index 1, .key "1]"]
  message := "1 is not of type \"string\""

theorem places_told_apart_numbered :
    Violation.IsOrdinary numberedPlace.path ∧ Violation.IsOrdinary indexedPlace.path ∧
      numberedPlace.pathString ≠ indexedPlace.pathString ∧ numberedPlace.pathString ≠ "" ∧
      location numberedPlace = "1[1].1]" := by
  have hnumbered : Violation.IsOrdinary numberedPlace.path := by
    simp [numberedPlace, Violation.IsOrdinaryKey]
  have hindexed : Violation.IsOrdinary indexedPlace.path := by
    simp [indexedPlace, Violation.IsOrdinaryKey]
  obtain ⟨hsame, hempty, hlocation⟩ := places_told_apart hnumbered hindexed
  refine ⟨hnumbered, hindexed, ?_, ?_, ?_⟩
  · rw [ne_eq, hsame]
    decide
  · rw [ne_eq, hempty]
    decide
  · rw [hlocation]
    decide

/-! ## Places -/

/-- The violations of a document by a schema have sound places, each with a writing of its
own. -/
structure LocatesSoundly (schema : Json) (v : Validator) (d : Json) : Prop where
  reached : ∀ w ∈ v.violations d, ∃ x, d.LeadsTo w.path x
  declared : ∀ w ∈ v.violations d, ∀ name, .key name ∈ w.path → schema.Declares name
  unambiguous : ∀ w ∈ v.violations d, ∀ w' ∈ v.violations d, w.pathString = w'.pathString →
    w.path = w'.path ∧
      (d.IsOrdered → ∀ x x', d.LeadsTo w.path x → d.LeadsTo w'.path x' → x = x')
  atTopLevel_iff : (∃ w ∈ v.violations d, location w = "at top level") ↔
    d ≠ .null ∧ ∀ members, d ≠ .object members
  alone : (∃ w ∈ v.violations d, location w = "at top level") → ∃ w, v.violations d = [w]

/-- The words for the top level are no path over declared names. -/
theorem location_eq_atTopLevel_iff {w : Violation}
    (h : ∀ name, .key name ∈ w.path → name ∈ containerNames) :
    location w = "at top level" ↔ w.path = [] := by
  have hordinary : Violation.IsOrdinary w.path := fun name hname =>
    isOrdinaryKey_of_mem_containerNames name (h name hname)
  rw [location_eq_atTopLevel_iff_of_isOrdinary hordinary, or_iff_left]
  intro hpath
  have hname : "at top level" ∈ containerNames := h _ (by simp [hpath])
  exact absurd hname (by decide)

theorem containerValidator_locatesSoundly (d : Json) :
    LocatesSoundly containerDocument containerValidator d := by
  have hover {w : Violation} (hw : w ∈ containerValidator.violations d) :
      LeadsOver containerNames d w.path :=
    Validator.leadsOver_of_mem_violations arePlain_containerNames namesOnly_containerNames hw
  have hordinary {w : Violation} (hw : w ∈ containerValidator.violations d) :
      Violation.IsOrdinary w.path := fun name hname =>
    isOrdinaryKey_of_mem_containerNames name ((hover hw).2 name hname)
  have htop {w : Violation} (hw : w ∈ containerValidator.violations d) :
      location w = "at top level" ↔ w.path = [] :=
    location_eq_atTopLevel_iff (hover hw).2
  refine ⟨fun w hw => (hover hw).1, ?declared, ?unambiguous, ?atTopLevel, ?alone⟩
  case declared =>
    exact fun w hw name hname => declares_containerNames name ((hover hw).2 name hname)
  case unambiguous =>
    intro w hw w' hw' hwritten
    have hpath : w.path = w'.path :=
      Violation.eq_of_renderPath_eq (hordinary hw) (hordinary hw') hwritten
    refine ⟨hpath, fun hordered x x' hx hx' => ?_⟩
    rw [← hpath] at hx'
    exact hx.unique hordered hx'
  case atTopLevel =>
    rcases violations_containerValidator_cases d with
      ⟨rfl, hnone⟩ | ⟨⟨members, rfl⟩, hbelow⟩ | ⟨hother, message, hone⟩
    · simp [hnone]
    · constructor
      · rintro ⟨w, hw, hlocation⟩
        obtain ⟨name, path, hpath⟩ := hbelow w hw
        rw [(htop hw).mp hlocation] at hpath
        cases hpath
      · exact fun hother => absurd rfl (hother.2 members)
    · have hw : ⟨[], message⟩ ∈ containerValidator.violations d := by simp [hone]
      exact ⟨fun _ => hother, fun _ => ⟨_, hw, (htop hw).mpr rfl⟩⟩
  case alone =>
    rintro ⟨w, hw, hlocation⟩
    rcases violations_containerValidator_cases d with
      ⟨rfl, hnone⟩ | ⟨-, hbelow⟩ | ⟨-, message, hone⟩
    · rw [hnone] at hw
      cases hw
    · obtain ⟨name, path, hpath⟩ := hbelow w hw
      rw [(htop hw).mp hlocation] at hpath
      cases hpath
    · exact ⟨_, hone⟩

/-- **The violations of a container file point at parts of it that are there.**  They do so
over declared names, and no two places are written alike; only a document that is neither an
object nor null is at fault itself, and then for nothing else. -/
theorem container_violations_located :
    ∃ text schema v, schemaTexts.lookup containerSchema = some text ∧
      Json.read text = .ok schema ∧ Validator.ofJson schema = .ok v ∧
      ∀ d, LocatesSoundly schema v d :=
  ⟨_, containerDocument, containerValidator, rfl, Schema.read_containerText,
    Schema.ofJson_containerDocument, containerValidator_locatesSoundly⟩

/-- A document whose second Go module has no name, and something that is not declared. -/
def unnamedModule : Json :=
  .object [("go", .object [("modules", .array [
    .object [("module", .string "a")],
    .object [("path", .string "b"), ("version", .null)]])])]

theorem violations_unnamedModule :
    ∃ message message', containerValidator.violations unnamedModule = [
      ⟨[.key "go", .key "modules", .index 1], message⟩,
      ⟨[.key "go", .key "modules", .index 1], message'⟩] :=
  ⟨_, _, rfl⟩

/-- What is not declared is named in the message and not in the path, so both violations of
the module are written at its place. -/
theorem container_violations_located_module :
    ∃ v, Schema.IsValidatorOf containerSchema v ∧ ∃ w ∈ v.violations unnamedModule,
      ∃ w' ∈ v.violations unnamedModule, w.pathString = "go.modules[1]" ∧
        w'.pathString = "go.modules[1]" ∧ w.path = w'.path ∧
        (∃ x, unnamedModule.LeadsTo w.path x) ∧
        ¬ ∃ w ∈ v.violations unnamedModule, location w = "at top level" := by
  obtain ⟨text, schema, v, htext, hschema, hv, hlocated⟩ := container_violations_located
  have hvalidator : Schema.IsValidatorOf containerSchema v := ⟨text, schema, htext, hschema, hv⟩
  obtain ⟨hreached, -, hunambiguous, htop, -⟩ := hlocated unnamedModule
  obtain ⟨message, message', hviolations⟩ := violations_unnamedModule
  rw [← eq_containerValidator_of_isValidatorOf hvalidator] at hviolations
  have hwritten : Violation.renderPath [.key "go", .key "modules", .index 1] =
      "go.modules[1]" := by
    decide
  have hw : ⟨[.key "go", .key "modules", .index 1], message⟩ ∈ v.violations unnamedModule := by
    simp [hviolations]
  have hw' : ⟨[.key "go", .key "modules", .index 1], message'⟩ ∈ v.violations unnamedModule := by
    simp [hviolations]
  refine ⟨v, hvalidator, _, hw, _, hw', hwritten, hwritten, (hunambiguous _ hw _ hw' rfl).1,
    hreached _ hw, ?_⟩
  rw [htop]
  exact fun hother => absurd rfl (hother.2 _)

end Document

end ImageBuild
