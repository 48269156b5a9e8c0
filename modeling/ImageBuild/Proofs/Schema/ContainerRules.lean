import ImageBuild.Proofs.Schema.ContainerText
import ImageBuild.Proofs.Schema.Judging
import ImageBuild.Schema.Validator

/-!
# The rules of the schema of container files

The validator `containerValidator` that the value of the schema of container
files stands for.
-/

namespace ImageBuild.Schema

/-! ## The rules -/

def goModuleTarget : String := "json-schema:///#/definitions/go_module"

def platformListTarget : String := "json-schema:///#/definitions/platform_list"

def goModule : Schema :=
  .all [
    .type [.object],
    .members [("module", .all [.type [.string], .minLength 1]), ("path", text)] [] none,
    .required ["module"]]

def platformList : Schema :=
  .all [.anyOf [text, .all [.type [.array], .uniqueItems, .items text], .all [.type [.null]]]]

def reference (target : String) : Schema := .all [.reference target]

def autorebuildMembers : List (String × Schema) := [
  ("add_timestamp_to_release", flag),
  ("from_latest", flag),
  ("ignore_isolated_builds", flag)]

def composeMembers : List (String × Schema) := [
  ("build_only_content_sets", flag),
  ("ignore_absent_pulp_repos", flag),
  ("include_unpublished_pulp_repos", flag),
  ("inherit", flag),
  ("modules", optionalListOf text),
  ("packages", optionalListOf text),
  ("pulp_repos", flag),
  ("signing_intent", text)]

def flatpakMembers : List (String × Schema) := [
  ("base_image", text),
  ("branch", text),
  ("cleanup-commands", text),
  ("command", text),
  ("component", text),
  ("finish-args", text),
  ("id", text),
  ("name", text),
  ("tags", listOf text)]

def goMembers : List (String × Schema) := [
  ("modules", listOf (reference goModuleTarget))]

def platformMembers : List (String × Schema) := [
  ("not", reference platformListTarget),
  ("only", reference platformListTarget)]

def buildMethod : Schema :=
  .all [.type [.string], .enum [.string "docker_api", .string "imagebuilder"]]

def identifierRule : Schema := .all [.type [.string], .pattern Pattern.identifier]

/-- The schemas of the sections of a container file, by their names. -/
def sections : List (String × Schema) := [
  ("autorebuild", optionalRecord autorebuildMembers),
  ("compose", optionalRecord composeMembers),
  ("flatpak", optionalRecord flatpakMembers),
  ("go", optionalRecord goMembers),
  ("image_build_method", buildMethod),
  ("platforms", optionalRecord platformMembers),
  ("set_release_env", identifierRule),
  ("tags", optionalListOf text)]

/-- The validator of container files. -/
def containerValidator : Validator where
  root := .all [.type [.null, .object], .properties sections]
  targets := [(platformListTarget, platformList), (goModuleTarget, goModule)]

/-! ## Reading the rules -/

/-- The parts of the schema of an identifier. -/
def identifierParts : Parts := [
  ("pattern", .string Pattern.identifierText, .data),
  ("type", .string "string", .data)]

theorem keywordsOf_identifierParts :
    keywordsOf identifierParts = [.type [.string], .pattern Pattern.identifier] := by
  have hpattern : identifierParts.value? "pattern" = some (.string Pattern.identifierText) := rfl
  unfold keywordsOf
  simp only [hpattern, Pattern.ofText?_identifierText]
  rfl

theorem read_identifierDocument : read defaultBase identifierDocument = identifierRule := by
  have hparts : read defaultBase identifierDocument = .all (keywordsOf identifierParts) := rfl
  exact hparts.trans (congrArg Schema.all keywordsOf_identifierParts)

set_option maxRecDepth 2000 in
theorem read_containerDocument :
    read defaultBase containerDocument = containerValidator.root := by
  have hsections : read defaultBase containerDocument =
      .all [.type [.null, .object], .properties [
        ("autorebuild", optionalRecord autorebuildMembers),
        ("compose", optionalRecord composeMembers),
        ("flatpak", optionalRecord flatpakMembers),
        ("go", optionalRecord goMembers),
        ("image_build_method", buildMethod),
        ("platforms", optionalRecord platformMembers),
        ("set_release_env", read defaultBase identifierDocument),
        ("tags", optionalListOf text)]] := rfl
  rw [hsections, read_identifierDocument]
  rfl

/-! ## Gathering what the references stand for -/

/-- References within the document that they stand in are well formed and reachable. -/
theorem checkReferences_of_local (r : Resources) {notes : List Note}
    (h : ∀ note ∈ notes, ∃ base text, note = .reference base text ∧
      Uri.flaw? 0 false text.toList = none ∧ text.startsWith "#" = true) :
    r.checkReferences notes = .ok () := by
  induction notes with
  | nil => rfl
  | cons note rest ih =>
      obtain ⟨base, text, rfl, hflaw, hlocal⟩ := h note List.mem_cons_self
      rw [Resources.checkReferences, hflaw]
      simp only [hlocal, if_true]
      exact ih fun other hother => h other (List.mem_cons_of_mem _ hother)

def goModuleReference : String := "#/definitions/go_module"

def platformListReference : String := "#/definitions/platform_list"

theorem notesAt_containerDocument :
    notesAt defaultBase .schema containerDocument = [
      .reference defaultBase goModuleReference,
      .reference defaultBase platformListReference,
      .reference defaultBase platformListReference] := rfl

theorem findings_containerDocument :
    findings defaultBase containerDocument = [
      .reference goModuleTarget,
      .reference platformListTarget,
      .reference platformListTarget] := rfl

def containerResources : Resources :=
  Resources.ofNotes containerDocument (notesAt defaultBase .schema containerDocument)

theorem checkReferences_containerDocument :
    containerResources.checkReferences (notesAt defaultBase .schema containerDocument) =
      .ok () := by
  apply checkReferences_of_local
  have hgo : Uri.flaw? 0 false goModuleReference.toList = none ∧
      goModuleReference.startsWith "#" = true := by
    constructor
    · decide
    · cbv
  have hplatforms : Uri.flaw? 0 false platformListReference.toList = none ∧
      platformListReference.startsWith "#" = true := by
    constructor
    · decide
    · cbv
  rw [notesAt_containerDocument]
  intro note hnote
  rcases List.mem_cons.mp hnote with rfl | hnote
  · exact ⟨_, _, rfl, hgo⟩
  · rcases List.mem_cons.mp hnote with rfl | hnote
    · exact ⟨_, _, rfl, hplatforms⟩
    · rcases List.mem_singleton.mp hnote with rfl
      exact ⟨_, _, rfl, hplatforms⟩

theorem find_goModuleTarget :
    containerResources.find goModuleTarget = .ok (defaultBase, goModuleDocument) := by
  cbv

theorem find_platformListTarget :
    containerResources.find platformListTarget = .ok (defaultBase, platformListDocument) := by
  cbv

variable {r : Resources} {fuel : Nat} {gathered : List (String × Schema)} {target : String}
  {rest : List Finding}

/-- A reference that is followed for the first time, to a schema without references. -/
theorem gather_new {base : Uri} {value : Json}
    (hnew : (gathered.any fun entry => entry.1 == target) = false)
    (hfind : r.find target = .ok (base, value)) (hfindings : findings base value = []) :
    Validator.gather r (fuel + 1) gathered (.reference target :: rest) =
      Validator.gather r fuel ((target, read base value) :: gathered) rest := by
  rw [Validator.gather]
  simp only [hnew, Bool.false_eq_true, if_false, hfind, bind, Except.bind, hfindings,
    List.nil_append]

theorem gather_known (hknown : (gathered.any fun entry => entry.1 == target) = true) :
    Validator.gather r (fuel + 1) gathered (.reference target :: rest) =
      Validator.gather r fuel gathered rest := by
  rw [Validator.gather]
  simp only [hknown, if_true]

theorem gather_containerDocument (fuel : Nat) :
    Validator.gather containerResources (fuel + 3) [] (findings defaultBase containerDocument) =
      .ok containerValidator.targets := by
  -- Both lists of platforms refer to one schema, which is gathered once.
  rw [findings_containerDocument, gather_new rfl find_goModuleTarget rfl,
    gather_new (by decide) find_platformListTarget rfl, gather_known (by decide)]
  cases fuel <;> rfl

/-- The schema of schemas has nothing against the schema of container files. -/
theorem violations_containerDocument : Validator.draft4.violations containerDocument = [] := by
  rw [← List.isEmpty_iff]
  decide +kernel

theorem ofSchema_containerDocument :
    Validator.ofSchema containerResources defaultBase containerDocument =
      .ok containerValidator := by
  have hcount : 2 ≤ Validator.valueCount containerDocument +
      Validator.valueCount draft4 + 1 := by
    have hfirst : 1 ≤ Validator.valueCount containerDocument := Nat.le_add_left 1 _
    omega
  -- Three references have to be followed, and the bound is the square of at least two.
  obtain ⟨fuel, hfuel⟩ := Nat.exists_eq_add_of_le' (Nat.mul_le_mul hcount hcount)
  have hgather : Validator.gather containerResources
      ((Validator.valueCount containerDocument + Validator.valueCount draft4 + 1) *
        (Validator.valueCount containerDocument + Validator.valueCount draft4 + 1)) []
      (findings defaultBase containerDocument) = .ok containerValidator.targets := by
    rw [hfuel]
    exact gather_containerDocument (fuel + 1)
  unfold Validator.ofSchema
  simp only [hgather, read_containerDocument, bind, Except.bind]
  rfl

theorem ofJson_eq {value : Json} {v : Validator}
    (hreferences : (Resources.ofNotes value (notesAt defaultBase .schema value)).checkReferences
      (notesAt defaultBase .schema value) = .ok ())
    (hvalid : Validator.draft4.violations value = [])
    (hschema : Validator.ofSchema (Resources.ofNotes value (notesAt defaultBase .schema value))
      defaultBase value = .ok v) :
    Validator.ofJson value = .ok v := by
  unfold Validator.ofJson
  simp only [hreferences, hvalid, bind, Except.bind]
  cases value <;> exact hschema

/-- The value that the schema writes stands for the validator of container files. -/
theorem ofJson_containerDocument :
    Validator.ofJson containerDocument = .ok containerValidator :=
  ofJson_eq checkReferences_containerDocument violations_containerDocument
    ofSchema_containerDocument

end ImageBuild.Schema
