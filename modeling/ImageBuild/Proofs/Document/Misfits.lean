import Mathlib
import ImageBuild.Proofs.Document

/-!
# Items of a wrong type

Four lists of a container file have to consist of texts.  Each item that is no text is
reported on its own, under the place where it stands: list after list, and in each list
from its first item on.

* `eachItem_text`: what is wrong with the items of one list.
* `violations_listsDocument`: what is wrong with a document that has the four lists.
* `read_reports_misfits`: what comes of reading the text of such a document.
-/

namespace ImageBuild

open Json (Members)
open Schema (composeMembers containerValidator flatpakMembers listOf optionalListOf
  optionalRecord sections text)

variable {refs : Oracle} {seen : List String}

/-! ## Items that are no texts -/

/-- The items of a list that are no texts, each with its index. -/
def misfits (items : List Json) : List (Json × Nat) :=
  items.zipIdx.filter fun entry => entry.1.text?.isNone

/-- What is wrong with a value that should be a text. -/
def notTextMessage (value : Json) : String :=
  value.compact ++ " is not of type \"string\""

/-- The violations by the items of a list that are no texts, behind the steps to the list. -/
def misplaced (steps : ViolationPath) (items : List Json) : List Violation :=
  (misfits items).map fun entry => ⟨steps ++ [.index entry.2], notTextMessage entry.1⟩

theorem misfits_eq_nil_iff {items : List Json} :
    misfits items = [] ↔ ∀ x ∈ items, ∃ s, x = .string s := by
  have htext (x : Json) : x.text?.isNone = false ↔ ∃ s, x = .string s := by
    cases x <;> simp [Json.text?]
  have hitems : (∀ x ∈ items, ∃ s, x = .string s) ↔
      ∀ entry ∈ items.zipIdx, ∃ s, entry.1 = .string s := by
    conv_lhs => rw [← List.zipIdx_map_fst 0 items]
    rw [List.forall_mem_map]
  rw [hitems, misfits, List.filter_eq_nil_iff]
  simp only [Bool.not_eq_true, htext]

theorem message_wrongType_string (value : Json) :
    (Objection.wrongType [.string]).message value = notTextMessage value := by
  have hmessage : (Objection.wrongType [.string]).message value =
      value.compact ++ " is not of " ++ Objection.typeNames [.string] := rfl
  have htype : Objection.typeNames [.string] = "type \"string\"" := by decide
  rw [hmessage, htype, notTextMessage, String.append_assoc]
  rfl

theorem violations_text (value : Json) :
    text.violations refs seen value =
      if value.text?.isNone then [⟨[], notTextMessage value⟩] else [] := by
  rw [← message_wrongType_string]
  cases value <;> rfl

/-- Every item of a list is judged, each under its own index. -/
theorem eachItem_text (i : Nat) (items : List Json) :
    eachItem (text.violations refs []) i items =
      ((items.zipIdx i).filter fun entry => entry.1.text?.isNone).map fun entry =>
        ⟨[.index entry.2], notTextMessage entry.1⟩ := by
  -- The index of the first item moves on with the items, so it is not fixed.
  induction items generalizing i with
  | nil => rfl
  | cons x rest ih =>
      rw [eachItem, ih, violations_text, List.zipIdx_cons, List.filter_cons]
      by_cases htext : x.text?.isNone = true
      · simp [htext, underIndex, Violation.under]
      · simp [htext, underIndex]

/-! ## Lists and records -/

/-- A list of texts is judged item by item, whatever else may stand in its place. -/
theorem violations_texts (others : List JsonType) (items : List Json) :
    (Schema.all [.type (.array :: others), .items text]).violations refs seen (.array items) =
      misplaced [] items := by
  show [] ++ (eachItem (text.violations refs []) 0 items ++ []) = _
  rw [eachItem_text, List.nil_append, List.append_nil]
  rfl

/-- The steps to the items of a list that is a member lead over the name of the member. -/
theorem underKey_misplaced (name : String) (steps : ViolationPath) (items : List Json) :
    underKey name (misplaced steps items) =
      misplaced (Violation.stepsOfKey name ++ steps) items := by
  simp [underKey, misplaced, Violation.under]

theorem underKey_append (name : String) (vs ws : List Violation) :
    underKey name (vs ++ ws) = underKey name vs ++ underKey name ws :=
  List.map_append

/-- A closed record is judged member by member, in the order of the document, if all
members are known. -/
theorem violations_optionalRecord {named : List (String × Schema)} {members : Members}
    (h : ∀ entry ∈ members, (named.any fun own => own.1 == entry.1) = true) :
    (optionalRecord named).violations refs seen (.object members) =
      members.flatMap fun entry => Schema.propertyViolations refs named [entry] := by
  -- What a closed record says about unknown members falls away.
  have hknown : (members.filter fun entry =>
      !((named.any fun own => own.1 == entry.1) || false)) = [] := by
    rw [List.filter_eq_nil_iff]
    intro entry hentry
    simp [h entry hentry]
  show [] ++ (((members.flatMap fun entry =>
      Schema.propertyViolations refs named [(entry.1, entry.2)] ++ [] ++
        if (named.any fun own => own.1 == entry.1) || false then [] else []) ++
      if false || ((members.filter fun entry =>
        !((named.any fun own => own.1 == entry.1) || false)).map Prod.fst).isEmpty then []
      else [_]) ++ []) = _
  rw [hknown]
  simp

theorem violations_openRecord (named : List (String × Schema)) (members : Members) :
    (Schema.all [.type [.null, .object], .properties named]).violations refs seen
        (.object members) =
      Schema.propertyViolations refs named members := by
  show [] ++ (Schema.propertyViolations refs named members ++ []) = _
  rw [List.nil_append, List.append_nil]

/-! ## Documents with the four lists -/

/-- A document with nothing but the lists that have to consist of texts. -/
def listsDocument (modules packages flatpakTags tags : List Json) : Json :=
  .object [
    ("compose", .object [("modules", .array modules), ("packages", .array packages)]),
    ("flatpak", .object [("tags", .array flatpakTags)]),
    ("tags", .array tags)]

theorem violations_composeLists (modules packages : List Json) :
    (optionalRecord composeMembers).violations refs seen
        (.object [("modules", .array modules), ("packages", .array packages)]) =
      misplaced [.key "modules"] modules ++ misplaced [.key "packages"] packages := by
  have hmodules : Violation.stepsOfKey "modules" = [.key "modules"] := by decide
  have hpackages : Violation.stepsOfKey "packages" = [.key "packages"] := by decide
  rw [violations_optionalRecord (by simp [composeMembers])]
  simp [composeMembers, propertyViolations_cons, propertyViolations_nil, Members.get?,
    lookUpEntry, optionalListOf, violations_texts, underKey_misplaced, hmodules, hpackages]

theorem violations_flatpakLists (tags : List Json) :
    (optionalRecord flatpakMembers).violations refs seen (.object [("tags", .array tags)]) =
      misplaced [.key "tags"] tags := by
  have htags : Violation.stepsOfKey "tags" = [.key "tags"] := by decide
  rw [violations_optionalRecord (by simp [flatpakMembers])]
  simp [flatpakMembers, propertyViolations_cons, propertyViolations_nil, Members.get?,
    lookUpEntry, listOf, violations_texts, underKey_misplaced, htags]

/-- What is wrong with a document that has the four lists: their items that are no texts. -/
theorem violations_listsDocument (modules packages flatpakTags tags : List Json) :
    containerValidator.violations (listsDocument modules packages flatpakTags tags) =
      misplaced [.key "compose", .key "modules"] modules ++
        misplaced [.key "compose", .key "packages"] packages ++
        misplaced [.key "flatpak", .key "tags"] flatpakTags ++ misplaced [.key "tags"] tags := by
  have hcompose : Violation.stepsOfKey "compose" = [.key "compose"] := by decide
  have hflatpak : Violation.stepsOfKey "flatpak" = [.key "flatpak"] := by decide
  have htags : Violation.stepsOfKey "tags" = [.key "tags"] := by decide
  have hroot : containerValidator.root =
      .all [.type [.null, .object], .properties sections] := rfl
  rw [Validator.violations, hroot, listsDocument, violations_openRecord]
  simp [sections, propertyViolations_cons, propertyViolations_nil, Members.get?, lookUpEntry,
    violations_composeLists, violations_flatpakLists, optionalListOf, violations_texts,
    underKey_append, underKey_misplaced, hcompose, hflatpak, htags]

/-! ## Places in writing -/

namespace Violation

/-- An index is written behind the place that it leads on from. -/
theorem renderPath_append_index (name : String) (steps : ViolationPath) (i : Nat) :
    renderPath (.key name :: steps ++ [.index i]) =
      renderPath (.key name :: steps) ++ "[" ++ toString i ++ "]" := by
  apply String.toList_inj.mp
  simp [renderPath, renderElement, Decimal.natDigits]

end Violation

namespace Document

/-- The items of a list that are no texts, each with its place in writing. -/
def misfitsAt (place : String) (items : List Json) : List (String × Json) :=
  (misfits items).map fun entry => (place ++ "[" ++ toString entry.2 ++ "]", entry.1)

/-- The items that are no texts of all four lists, with their places. -/
def misfitsOf (modules packages flatpakTags tags : List Json) : List (String × Json) :=
  misfitsAt "compose.modules" modules ++ misfitsAt "compose.packages" packages ++
    misfitsAt "flatpak.tags" flatpakTags ++ misfitsAt "tags" tags

theorem misfitsOf_eq_nil_iff {modules packages flatpakTags tags : List Json} :
    misfitsOf modules packages flatpakTags tags = [] ↔
      ∀ x ∈ modules ++ packages ++ flatpakTags ++ tags, ∃ s, x = .string s := by
  simp only [misfitsOf, misfitsAt, List.append_eq_nil_iff, List.map_eq_nil_iff,
    misfits_eq_nil_iff, List.forall_mem_append]

/-- Whatever is said about the violations by the items of a list is said about the items at
their places. -/
theorem map_misplaced {α : Type} (say : String → String → α) {name place : String}
    {steps : ViolationPath} (hplace : Violation.renderPath (.key name :: steps) = place)
    (items : List Json) :
    (misplaced (.key name :: steps) items).map (fun v => say (location v) v.message) =
      (misfitsAt place items).map fun entry => say entry.1 (notTextMessage entry.2) := by
  have hlocation (i : Nat) (message : String) :
      location ⟨.key name :: steps ++ [.index i], message⟩ =
        place ++ "[" ++ toString i ++ "]" := by
    -- Only the document itself, whose path is empty, has a name of its own.
    have hnonempty : place ++ "[" ++ toString i ++ "]" ≠ "" := by simp
    rw [location, Violation.pathString, Violation.renderPath_append_index, hplace,
      if_neg hnonempty]
  simp only [misplaced, misfitsAt, List.map_map, Function.comp_def, hlocation]

theorem map_violations_listsDocument {α : Type} (say : String → String → α)
    (modules packages flatpakTags tags : List Json) :
    (containerValidator.violations (listsDocument modules packages flatpakTags tags)).map
        (fun v => say (location v) v.message) =
      (misfitsOf modules packages flatpakTags tags).map fun entry =>
        say entry.1 (notTextMessage entry.2) := by
  have hmodules : Violation.renderPath [.key "compose", .key "modules"] = "compose.modules" := by
    decide
  have hpackages : Violation.renderPath [.key "compose", .key "packages"] =
      "compose.packages" := by
    decide
  have hflatpak : Violation.renderPath [.key "flatpak", .key "tags"] = "flatpak.tags" := by
    decide
  have htags : Violation.renderPath [.key "tags"] = "tags" := by
    decide
  rw [violations_listsDocument, misfitsOf]
  simp only [List.map_append, map_misplaced say hmodules, map_misplaced say hpackages,
    map_misplaced say hflatpak, map_misplaced say htags]

/-! ## Reading -/

/-- **Each item that is no text is reported once, in order, and nothing else is.**  Each is
logged in the same order. -/
theorem read_reports_misfits {yaml : String} {modules packages flatpakTags tags : List Json}
    (h : Yaml.read yaml = .ok (listsDocument modules packages flatpakTags tags)) :
    ((∃ value, (read yaml containerSchema).result = .ok value) ↔
      ∀ x ∈ modules ++ packages ++ flatpakTags ++ tags, ∃ s, x = .string s) ∧
    ((¬ ∀ x ∈ modules ++ packages ++ flatpakTags ++ tags, ∃ s, x = .string s) →
      (read yaml containerSchema).result =
        .error (.validation ((misfitsOf modules packages flatpakTags tags).map fun entry =>
          entry.1 ++ ": " ++ notTextMessage entry.2))) ∧
    (read yaml containerSchema).records =
      (misfitsOf modules packages flatpakTags tags).map fun entry =>
        ⟨.error, .schema, "validation error (" ++ entry.1 ++ "): " ++ notTextMessage entry.2⟩ := by
  have hreport : report = fun v => location v ++ ": " ++ v.message := rfl
  have hreports : (containerValidator.violations
      (listsDocument modules packages flatpakTags tags)).map report =
        (misfitsOf modules packages flatpakTags tags).map fun entry =>
          entry.1 ++ ": " ++ notTextMessage entry.2 := by
    rw [hreport]
    exact map_violations_listsDocument (fun place message => place ++ ": " ++ message) ..
  have hrecord : record = fun v =>
      ⟨.error, .schema, "validation error (" ++ location v ++ "): " ++ v.message⟩ := rfl
  have hrecords : (containerValidator.violations
      (listsDocument modules packages flatpakTags tags)).map record =
        (misfitsOf modules packages flatpakTags tags).map fun entry =>
          ⟨.error, .schema,
            "validation error (" ++ entry.1 ++ "): " ++ notTextMessage entry.2⟩ := by
    rw [hrecord]
    exact map_violations_listsDocument (fun place message =>
      (⟨.error, .schema, "validation error (" ++ place ++ "): " ++ message⟩ : LogRecord)) ..
  have hnone : containerValidator.violations
      (listsDocument modules packages flatpakTags tags) = [] ↔
        ∀ x ∈ modules ++ packages ++ flatpakTags ++ tags, ∃ s, x = .string s := by
    rw [← misfitsOf_eq_nil_iff, ← List.map_eq_nil_iff, hreports, List.map_eq_nil_iff]
  rw [read_container_eq_check h, ← hnone, ← hreports, ← hrecords]
  rcases check_cases containerValidator (listsDocument modules packages flatpakTags tags) with
    ⟨hnil, hcheck⟩ | ⟨hsome, hcheck⟩
  · simp [hcheck, hnil]
  · simp [hcheck, hsome]

/-- A container file three of whose lists have items that are no texts. -/
def misfitLines : String :=
  "compose: \x7bmodules: [1, a:b, [x]], packages: [c]\x7d\n" ++
    "flatpak: \x7btags: [null]\x7d\ntags: [true]\n"

set_option maxRecDepth 8000 in
theorem read_misfitLines : Yaml.read misfitLines =
    .ok (listsDocument [.number (.int 1), .string "a:b", .array [.string "x"]] [.string "c"]
      [.null] [.bool true]) := by
  cbv

/-- Two items of the first list are reported, with the indices that they have in it, before
those of the others. -/
theorem read_reports_misfits_four : Yaml.read misfitLines =
      .ok (listsDocument [.number (.int 1), .string "a:b", .array [.string "x"]] [.string "c"]
        [.null] [.bool true]) ∧
    (read misfitLines containerSchema).result = .error (.validation [
      "compose.modules[0]: 1 is not of type \"string\"",
      "compose.modules[2]: [\"x\"] is not of type \"string\"",
      "flatpak.tags[0]: null is not of type \"string\"",
      "tags[0]: true is not of type \"string\""]) := by
  have hreports : (misfitsOf [.number (.int 1), .string "a:b", .array [.string "x"]]
      [.string "c"] [.null] [.bool true]).map (fun entry =>
        entry.1 ++ ": " ++ notTextMessage entry.2) = [
        "compose.modules[0]: 1 is not of type \"string\"",
        "compose.modules[2]: [\"x\"] is not of type \"string\"",
        "flatpak.tags[0]: null is not of type \"string\"",
        "tags[0]: true is not of type \"string\""] := by
    cbv
  refine ⟨read_misfitLines, ?_⟩
  rw [← hreports]
  exact (read_reports_misfits read_misfitLines).2.1 fun h => by
    obtain ⟨s, hs⟩ := h .null (by simp)
    cases hs

end Document

end ImageBuild
