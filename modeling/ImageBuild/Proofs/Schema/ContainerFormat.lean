import ImageBuild.Document
import ImageBuild.Proofs.Schema.ContainerRules

/-!
# The format of container files

`IsContainer` says what a container file may hold, in terms of shapes of values
and without schemas.  The schema of container files has nothing against exactly
the values of this format.
-/

namespace ImageBuild.Schema

open Json (Fields IsClosedRecord IsFlag IsListOf IsOpenRecord IsSetOfTexts IsText Members OrNull)

/-! ## The format -/

def IsPlatformList (value : Json) : Prop :=
  IsText value ∨ value = .null ∨ IsSetOfTexts value

def platformFields : Fields := [
  ("not", IsPlatformList),
  ("only", IsPlatformList)]

def autorebuildFields : Fields := [
  ("add_timestamp_to_release", IsFlag),
  ("from_latest", IsFlag),
  ("ignore_isolated_builds", IsFlag)]

def composeFields : Fields := [
  ("build_only_content_sets", IsFlag),
  ("ignore_absent_pulp_repos", IsFlag),
  ("include_unpublished_pulp_repos", IsFlag),
  ("inherit", IsFlag),
  ("modules", OrNull (IsListOf IsText)),
  ("packages", OrNull (IsListOf IsText)),
  ("pulp_repos", IsFlag),
  ("signing_intent", IsText)]

def flatpakFields : Fields := [
  ("base_image", IsText),
  ("branch", IsText),
  ("cleanup-commands", IsText),
  ("command", IsText),
  ("component", IsText),
  ("finish-args", IsText),
  ("id", IsText),
  ("name", IsText),
  ("tags", IsListOf IsText)]

def IsBuildMethod (value : Json) : Prop :=
  value = .string "docker_api" ∨ value = .string "imagebuilder"

/-- A text that is an identifier as a whole. -/
def IsIdentifierText (value : Json) : Prop :=
  ∃ s, value = .string s ∧ Pattern.IsIdentifier s.toList

def IsNonemptyText (value : Json) : Prop :=
  ∃ s, value = .string s ∧ s ≠ ""

def goModuleFields : Fields := [
  ("module", IsNonemptyText),
  ("path", IsText)]

/-- A Go module has a name. -/
def IsGoModule (value : Json) : Prop :=
  IsClosedRecord goModuleFields value ∧ ∃ name, value.get? "module" = some name

def goFields : Fields := [("modules", IsListOf IsGoModule)]

/-- The sections of a container file. -/
def containerFields : Fields := [
  ("autorebuild", OrNull (IsClosedRecord autorebuildFields)),
  ("compose", OrNull (IsClosedRecord composeFields)),
  ("flatpak", OrNull (IsClosedRecord flatpakFields)),
  ("go", OrNull (IsClosedRecord goFields)),
  ("image_build_method", IsBuildMethod),
  ("platforms", OrNull (IsClosedRecord platformFields)),
  ("set_release_env", IsIdentifierText),
  ("tags", OrNull (IsListOf IsText))]

/-- What a container file may hold.  Further sections are allowed. -/
def IsContainer (value : Json) : Prop :=
  value = .null ∨ IsOpenRecord containerFields value

/-! ## Sections and their rules -/

variable {refs : Oracle} {seen : List String}

theorem sameValue_string_iff {s : String} {value : Json} :
    (Json.string s).sameValue value = true ↔ value = .string s := by
  cases value with
  | string t =>
      rw [Json.sameValue, beq_iff_eq, Json.string.injEq]
      exact eq_comm
  | null | bool _ | number _ | array _ | object _ => simp [Json.sameValue]

theorem allDifferent_map_string {texts : List String} :
    allDifferent (texts.map .string) = true ↔ texts.Nodup := by
  induction texts with
  | nil => simp [allDifferent]
  | cons s rest ih =>
      have hfresh : ((rest.map Json.string).any fun y => (Json.string s).sameValue y) = true ↔
          s ∈ rest := by
        rw [List.any_eq_true]
        simp only [sameValue_string_iff, List.mem_map, exists_eq_right, Json.string.injEq]
      rw [List.map_cons, allDifferent, Bool.and_eq_true, ih, List.nodup_cons, ← hfresh,
        Bool.not_eq_true', Bool.not_eq_true]

/-- Arrays of texts that are all different. -/
theorem violations_uniqueTexts_eq_nil_iff {value : Json} :
    (Schema.all [.type [.array], .uniqueItems, .items text]).violations refs seen value = [] ↔
      IsSetOfTexts value := by
  rw [violations_typed_eq_nil_iff]
  cases value with
  | array items =>
      simp only [exists_eq_left, JsonType.admits, true_and, List.mem_cons,
        List.not_mem_nil, or_false, forall_eq_or_imp, forall_eq,
        violations_uniqueItems_eq_nil_iff, violations_items_eq_nil_iff_isListOf describes_text]
      constructor
      · rintro ⟨hdifferent, htexts⟩
        obtain ⟨texts, heq⟩ := Json.isListOf_isText_iff.mp htexts
        cases heq
        exact ⟨texts, allDifferent_map_string.mp hdifferent, rfl⟩
      · rintro ⟨texts, hnodup, heq⟩
        cases heq
        exact ⟨allDifferent_map_string.mpr hnodup, Json.isListOf_isText_iff.mpr ⟨texts, rfl⟩⟩
  | null | bool _ | number _ | string _ | object _ => simp [JsonType.admits, IsSetOfTexts]

theorem violations_null_eq_nil_iff {value : Json} :
    (Schema.all [.type [.null]]).violations refs seen value = [] ↔ value = .null := by
  rw [violations_typed_eq_nil_iff]
  cases value <;> simp [JsonType.admits]

theorem describes_platformList : platformList.Describes refs seen IsPlatformList := by
  intro value
  rw [platformList, violations_all_eq_nil_iff, List.forall_mem_singleton,
    violations_anyOf_eq_nil_iff]
  simp only [List.mem_cons, List.not_mem_nil, or_false, exists_eq_or_imp, exists_eq_left,
    describes_text value, violations_uniqueTexts_eq_nil_iff, violations_null_eq_nil_iff]
  rw [IsPlatformList, or_comm (a := IsSetOfTexts value)]

theorem describes_buildMethod : buildMethod.Describes refs seen IsBuildMethod := by
  intro value
  rw [buildMethod, violations_typed_eq_nil_iff]
  cases value with
  | string s =>
      simp [JsonType.admits, violations_enum_eq_nil_iff, sameValue_string_iff, IsBuildMethod]
  | null | bool _ | number _ | array _ | object _ => simp [JsonType.admits, IsBuildMethod]

theorem describes_identifierRule : identifierRule.Describes refs seen IsIdentifierText := by
  intro value
  rw [identifierRule, violations_typed_eq_nil_iff]
  cases value with
  | string s =>
      simp [JsonType.admits, violations_pattern_eq_nil_iff, Pattern.foundIn_identifier_iff,
        IsIdentifierText]
  | null | bool _ | number _ | array _ | object _ => simp [JsonType.admits, IsIdentifierText]

theorem describes_nonemptyText :
    (Schema.all [.type [.string], .minLength 1]).Describes refs seen IsNonemptyText := by
  intro value
  rw [violations_typed_eq_nil_iff]
  cases value with
  | string s =>
      have hlength : 1 ≤ s.length ↔ s ≠ "" := by
        rw [Nat.one_le_iff_ne_zero, ne_eq, String.length_eq_zero_iff]
      simp [JsonType.admits, violations_minLength_eq_nil_iff, IsNonemptyText, hlength]
  | null | bool _ | number _ | array _ | object _ => simp [JsonType.admits, IsNonemptyText]

theorem describes_goModule : goModule.Describes refs seen IsGoModule := by
  have hfields : DescribeFields refs
      [("module", .all [.type [.string], .minLength 1]), ("path", text)] goModuleFields :=
    .cons describes_nonemptyText (.cons describes_text .nil)
  intro value
  rw [goModule, violations_typed_eq_nil_iff]
  cases value with
  | object members =>
      have hname : (∃ x, (Json.object members).get? "module" = some x) ↔
          ∃ x, ("module", x) ∈ members := Json.exists_get?_iff
      simp [JsonType.admits, violations_required_eq_nil_iff, IsGoModule, hname,
        violations_members_eq_nil_iff_isClosedRecord hfields]
  | null | bool _ | number _ | string _ | array _ =>
      simp [JsonType.admits, IsGoModule, IsClosedRecord]

/-! ## References -/

/-- A reference stands for the schema that it leads to. -/
theorem describes_reference {targets : List (String × Schema)} {fuel : Nat} {target : String}
    {s : Schema} {P : Json → Prop}
    (hfind : (targets.find? fun entry => entry.1 == target) = some (target, s))
    (h : s.Describes (Validator.oracle targets fuel) [target] P) :
    (reference target).Describes (Validator.oracle targets (fuel + 1)) [] P := by
  intro value
  rw [reference, violations_all_eq_nil_iff, List.forall_mem_singleton]
  -- No reference is being followed yet, so this one is.
  show Validator.oracle targets (fuel + 1) [] target value = [] ↔ _
  rw [Validator.oracle]
  simp only [List.contains_nil, Bool.false_eq_true, if_false, hfind]
  exact h value

/-- The rules of the sections, at values where no reference is being followed yet. -/
theorem describeFields_sections (fuel : Nat) :
    DescribeFields (Validator.oracle containerValidator.targets (fuel + 1)) sections
      containerFields := by
  have hplatforms : (reference platformListTarget).Describes
      (Validator.oracle containerValidator.targets (fuel + 1)) [] IsPlatformList :=
    describes_reference rfl describes_platformList
  have hgo : (reference goModuleTarget).Describes
      (Validator.oracle containerValidator.targets (fuel + 1)) [] IsGoModule :=
    describes_reference rfl describes_goModule
  refine .cons (describes_optionalRecord ?autorebuild) <|
    .cons (describes_optionalRecord ?compose) <|
    .cons (describes_optionalRecord ?flatpak) <|
    .cons (describes_optionalRecord ?go) <|
    .cons describes_buildMethod <|
    .cons (describes_optionalRecord ?platforms) <|
    .cons describes_identifierRule <|
    .cons (describes_optionalListOf describes_text) .nil
  case autorebuild =>
    exact .cons describes_flag (.cons describes_flag (.cons describes_flag .nil))
  case compose =>
    exact .cons describes_flag <| .cons describes_flag <| .cons describes_flag <|
      .cons describes_flag <| .cons (describes_optionalListOf describes_text) <|
      .cons (describes_optionalListOf describes_text) <| .cons describes_flag <|
      .cons describes_text .nil
  case flatpak =>
    exact .cons describes_text <| .cons describes_text <| .cons describes_text <|
      .cons describes_text <| .cons describes_text <| .cons describes_text <|
      .cons describes_text <| .cons describes_text <|
      .cons (describes_listOf describes_text) .nil
  case go => exact .cons (describes_listOf hgo) .nil
  case platforms => exact .cons hplatforms (.cons hplatforms .nil)

theorem violations_containerValidator_iff (value : Json) :
    containerValidator.violations value = [] ↔ IsContainer value := by
  -- At any depth a reference may be followed, as none of the schemas refers to another.
  have hfuel : (value.depth + 1) * (containerValidator.targets.length + 1) =
      3 * value.depth + 2 + 1 := by
    have hlength : containerValidator.targets.length = 2 := rfl
    rw [hlength]
    omega
  have hroot : containerValidator.root =
      .all [.type [.null, .object], .properties sections] := rfl
  rw [Validator.violations, hfuel, hroot, violations_typed_eq_nil_iff]
  cases value with
  | object members =>
      rw [List.forall_mem_singleton, violations_properties_eq_nil_iff_isOpenRecord
        (describeFields_sections (3 * (Json.object members).depth + 2))]
      simp [JsonType.admits, IsContainer]
  | null =>
      have hnone (refs : Oracle) :
          (Keyword.properties sections).violations refs [] .null = [] := rfl
      simp [JsonType.admits, IsContainer, hnone]
  | bool _ | number _ | string _ | array _ => simp [JsonType.admits, IsContainer, IsOpenRecord]

/-! ## The validator at hand -/

/-- A validator is made from the schema at hand of a name. -/
def IsValidatorOf (name : String) (v : Validator) : Prop :=
  ∃ text schema, Document.schemaTexts.lookup name = some text ∧
    Json.read text = .ok schema ∧ Validator.ofJson schema = .ok v

theorem isValidatorOf_container : IsValidatorOf Document.containerSchema containerValidator :=
  ⟨containerText, containerDocument, rfl, read_containerText, ofJson_containerDocument⟩

/-- **The schema of container files accepts exactly the values of the format.** -/
theorem accepts_iff_isContainer :
    ∃ v, IsValidatorOf Document.containerSchema v ∧
      ∀ value, v.violations value = [] ↔ IsContainer value :=
  ⟨containerValidator, isValidatorOf_container, violations_containerValidator_iff⟩

end ImageBuild.Schema
