import ImageBuild.Proofs.Json.Reading
import ImageBuild.Proofs.Pattern.Identifier
import ImageBuild.Schema.Container

/-!
# The schema of container files as a value

The text of the schema of container files is read as the JSON value
`containerDocument`.  Its members are listed with the numbers of their lines, so
that a section that is changed concerns its own document and its own row, and the
places of what follows when it gets longer.
-/

namespace ImageBuild.Schema

open Json (Members ReadsMember ReadsMembers comma readMember_eq readString readValue skipSpace)

/-! ## The value that the text writes -/

def typeDocument (name : String) : Json :=
  .object [("type", .string name)]

/-- The schema of an object without other members, or of null. -/
def recordDocument (named : Members) : Json :=
  .object [
    ("additionalProperties", .bool false),
    ("properties", .object named),
    ("type", .array [.string "object", .string "null"])]

/-- The schema of an array whose items follow a schema. -/
def listDocument (each : Json) : Json :=
  .object [("items", each), ("type", .string "array")]

/-- The schema of an array of texts, or of null. -/
def optionalTextsDocument : Json :=
  .object [
    ("items", typeDocument "string"),
    ("type", .array [.string "array", .string "null"])]

def referenceDocument (target : String) : Json :=
  .object [("$ref", .string target)]

def goModuleDocument : Json :=
  .object [
    ("additionalProperties", .bool false),
    ("properties", .object [
      ("module", .object [("minLength", .number (.int 1)), ("type", .string "string")]),
      ("path", typeDocument "string")]),
    ("required", .array [.string "module"]),
    ("type", .string "object")]

def platformListDocument : Json :=
  .object [
    ("anyOf", .array [
      typeDocument "string",
      .object [
        ("items", typeDocument "string"),
        ("type", .string "array"),
        ("uniqueItems", .bool true)],
      typeDocument "null"])]

def identifierDocument : Json :=
  .object [("pattern", .string Pattern.identifierText), ("type", .string "string")]

def autorebuildDocument : Json :=
  recordDocument [
    ("add_timestamp_to_release", typeDocument "boolean"),
    ("from_latest", typeDocument "boolean"),
    ("ignore_isolated_builds", typeDocument "boolean")]

def composeDocument : Json :=
  recordDocument [
    ("build_only_content_sets", typeDocument "boolean"),
    ("ignore_absent_pulp_repos", typeDocument "boolean"),
    ("include_unpublished_pulp_repos", typeDocument "boolean"),
    ("inherit", typeDocument "boolean"),
    ("modules", optionalTextsDocument),
    ("packages", optionalTextsDocument),
    ("pulp_repos", typeDocument "boolean"),
    ("signing_intent", typeDocument "string")]

def flatpakDocument : Json :=
  recordDocument [
    ("base_image", typeDocument "string"),
    ("branch", typeDocument "string"),
    ("cleanup-commands", typeDocument "string"),
    ("command", typeDocument "string"),
    ("component", typeDocument "string"),
    ("finish-args", typeDocument "string"),
    ("id", typeDocument "string"),
    ("name", typeDocument "string"),
    ("tags", listDocument (typeDocument "string"))]

def goDocument : Json :=
  recordDocument [
    ("modules", listDocument (referenceDocument "#/definitions/go_module"))]

def buildMethodDocument : Json :=
  .object [
    ("enum", .array [.string "docker_api", .string "imagebuilder"]),
    ("type", .string "string")]

def platformsDocument : Json :=
  recordDocument [
    ("not", referenceDocument "#/definitions/platform_list"),
    ("only", referenceDocument "#/definitions/platform_list")]

/-- The documents of the sections of a container file, by their names. -/
def sectionDocuments : Members := [
  ("autorebuild", autorebuildDocument),
  ("compose", composeDocument),
  ("flatpak", flatpakDocument),
  ("go", goDocument),
  ("image_build_method", buildMethodDocument),
  ("platforms", platformsDocument),
  ("set_release_env", identifierDocument),
  ("tags", optionalTextsDocument)]

def definitionDocuments : Members := [
  ("go_module", goModuleDocument),
  ("platform_list", platformListDocument)]

/-- The value that the schema of container files writes. -/
def containerDocument : Json :=
  .object [
    ("$schema", .string "http://json-schema.org/draft-04/schema#"),
    ("definitions", .object definitionDocuments),
    ("properties", .object sectionDocuments),
    ("title", .string "container.yaml configuration"),
    ("type", .array [.string "object", .string "null"])]

/-! ## Parts of the text -/

/-- The text of `count` lines of the schema, behind the first `start` ones. -/
def containerPart (start count : Nat) : List Char :=
  ((containerLines.drop start).take count).flatMap fun line => line.toList ++ ['\n']

theorem containerPart_append (start m n : Nat) :
    containerPart start (m + n) = containerPart start m ++ containerPart (start + m) n := by
  unfold containerPart
  rw [List.take_add, List.flatMap_append, List.drop_drop]

theorem toList_containerText : containerText.toList = containerPart 0 106 := by
  unfold containerText
  rw [String.toList_ofList]
  rfl

/-! ## Members on lines of their own -/

/-- A member of an object, and how many lines it takes up. -/
structure Row where
  count : Nat
  member : String × Json

/-- The lines of some rows. -/
def linesOf (rows : List Row) : Nat :=
  (rows.map Row.count).sum

/-- Behind `start` lines the text is read row by row, and `left` is what remains of it. -/
def ReadsRows (levels : Nat) (left : List Char) : Nat → List Row → Prop
  | _, [] => False
  | start, [row] => ReadsMember levels (containerPart start row.count) row.member left
  | start, row :: rows =>
      ReadsMember levels (containerPart start row.count) row.member comma ∧
        ReadsRows levels left (start + row.count) rows

theorem ReadsRows.readsMembers {levels start : Nat} {left : List Char} {rows : List Row}
    (h : ReadsRows levels left start rows) :
    ReadsMembers levels (containerPart start (linesOf rows)) (rows.map Row.member) left := by
  induction rows generalizing start with
  | nil => exact h.elim
  | cons row rows ih =>
      cases rows with
      | nil => exact .last h
      | cons next rows =>
          obtain ⟨hrow, hrows⟩ := h
          have hlines : linesOf (row :: next :: rows) = row.count + linesOf (next :: rows) := by
            rfl
          rw [hlines, containerPart_append]
          exact .next hrow (ih hrows)

/-- The members of the schema in front of its sections. -/
def openingRows : List Row := [
  ⟨1, ("$schema", .string "http://json-schema.org/draft-04/schema#")⟩,
  ⟨1, ("title", .string "container.yaml configuration")⟩,
  ⟨1, ("type", .array [.string "object", .string "null"])⟩]

/-- The sections in the order of their lines. -/
def sectionRows : List Row := [
  ⟨8, ("platforms", platformsDocument)⟩,
  ⟨9, ("autorebuild", autorebuildDocument)⟩,
  ⟨20, ("compose", composeDocument)⟩,
  ⟨18, ("flatpak", flatpakDocument)⟩,
  ⟨4, ("tags", optionalTextsDocument)⟩,
  ⟨4, ("image_build_method", buildMethodDocument)⟩,
  ⟨4, ("set_release_env", identifierDocument)⟩,
  ⟨10, ("go", goDocument)⟩]

/-- The members of the schema behind its sections. -/
def closingRows : List Row := [⟨22, ("definitions", .object definitionDocuments)⟩]

set_option maxRecDepth 2000 in
/-- All rows without sections in them are read as what they stand for. -/
theorem readsRows_all :
    ReadsRows 126 comma 1 openingRows ∧ ReadsRows 125 ['\n'] 5 sectionRows ∧
      ReadsRows 126 ['\n'] 83 closingRows := by
  unfold openingRows sectionRows closingRows
  simp only [ReadsRows, containerPart, containerLines, List.drop, List.take, List.flatMap_cons,
    List.flatMap_nil]
  -- The lines as lists of characters, on which the reader can be run.
  repeat rw [String.toList_ofList]
  and_intros
  all_goals
    intro rest
    constructor
    · cbv
    · cbv

/-! ## The whole text -/

theorem readsMember_properties :
    ReadsMember 126 (containerPart 4 79) ("properties", .object sectionDocuments) comma := by
  intro rest
  have hlines : containerPart 4 79 ++ rest =
      containerPart 4 1 ++ (containerPart 5 77 ++ (containerPart 82 1 ++ rest)) := by
    rw [containerPart_append 4 1 78, containerPart_append 5 77 1, List.append_assoc,
      List.append_assoc]
  have hsections := readsRows_all.2.1.readsMembers
  have hclosing : skipSpace (['\n'] ++ (containerPart 82 1 ++ rest)) = '}' :: (comma ++ rest) := by
    cbv
  rw [hlines]
  -- The sections have rows of their own, so nothing below may look into their text.
  generalize hbehind : containerPart 5 77 ++ (containerPart 82 1 ++ rest) = behind
  have hopening : skipSpace (containerPart 4 1 ++ behind) =
      '"' :: ("properties\": \x7b\n".toList ++ behind) := by cbv
  have hname : readString ("properties\": \x7b\n".toList ++ behind) =
      .ok ("properties", ':' :: ' ' :: '{' :: '\n' :: behind) := by cbv
  have hobject : skipSpace (' ' :: '{' :: '\n' :: behind) =
      '{' :: '\n' :: (containerPart 5 77 ++ (containerPart 82 1 ++ rest)) := by
    rw [hbehind]
    rfl
  constructor
  · rw [hopening, List.head?_cons]
  · rw [hopening, List.tail_cons]
    exact readMember_eq hname rfl (hsections.readValue_eq hobject hclosing)

/-- The members of the schema in the order of their lines. -/
theorem readsMembers_container :
    ReadsMembers 126 (containerPart 1 104)
      (openingRows.map Row.member ++
        ("properties", .object sectionDocuments) :: closingRows.map Row.member) ['\n'] := by
  obtain ⟨hfront, -, hbehind⟩ := readsRows_all
  have hlines : containerPart 1 104 =
      containerPart 1 3 ++ (containerPart 4 79 ++ containerPart 83 22) := by
    rw [containerPart_append 1 3 101, containerPart_append 4 79 22]
  rw [hlines]
  exact hfront.readsMembers.append (.next readsMember_properties hbehind.readsMembers)

theorem readAll_container : Json.readAll (containerPart 0 106) = .ok containerDocument := by
  have hlines : containerPart 0 106 =
      containerPart 0 1 ++ (containerPart 1 104 ++ containerPart 105 1) := by
    rw [containerPart_append 0 1 105, containerPart_append 1 104 1]
  have hopening : containerPart 0 1 = ['{', '\n'] := by cbv
  have hclosing : containerPart 105 1 = ['}', '\n'] := by cbv
  have hvalue : readValue 127 (containerPart 0 106) = .ok (containerDocument, ['\n']) := by
    rw [hlines, hopening, hclosing]
    exact readsMembers_container.readValue_eq rfl rfl
  exact Json.readAll_eq hvalue rfl

/-- The text of the schema is JSON. -/
theorem read_containerText : Json.read containerText = .ok containerDocument := by
  apply Json.read_eq
  rw [toList_containerText]
  exact readAll_container

end ImageBuild.Schema
