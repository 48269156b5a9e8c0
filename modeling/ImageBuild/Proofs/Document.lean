import ImageBuild.Document
import ImageBuild.Proofs.Log
import ImageBuild.Proofs.Schema.ContainerFormat

/-!
# Documents that are accepted

When reading a document succeeds: its schema has to be usable, its text has to be
YAML, and the schema must have nothing against the value.  The value is handed
out as it was read.  For the schema of container files, which is usable, `IsFlawed`
says what is wrong with a document that is not accepted.
-/

namespace ImageBuild.Document

variable {path : String} {value accepted : Json}

/-- A value is accepted without a word, or refused with a report and a record of each of its
violations. -/
theorem check_cases (v : Validator) (value : Json) :
    (v.violations value = [] ∧ check v value = ⟨[], .ok value⟩) ∨
      (v.violations value ≠ [] ∧ check v value =
        ⟨(v.violations value).map record,
          .error (.validation ((v.violations value).map report))⟩) := by
  unfold check
  cases v.violations value with
  | nil =>
      left
      exact ⟨rfl, rfl⟩
  | cons first rest =>
      right
      exact ⟨List.cons_ne_nil first rest, rfl⟩

theorem result_check_eq_ok_iff {v : Validator} :
    (check v value).result = .ok accepted ↔ v.violations value = [] ∧ value = accepted := by
  rcases check_cases v value with ⟨hnone, hcheck⟩ | ⟨hsome, hcheck⟩
  · simp [hcheck, hnone]
  · simp [hcheck, hsome]

/-- Where the schema is sound and the text is YAML, reading is checking. -/
theorem readWith_eq_check {yaml schemaName schemaText : String} {schema : Json} {v : Validator}
    (hschema : Json.read schemaText = .ok schema) (hyaml : Yaml.read yaml = .ok value)
    (hv : Validator.ofJson schema = .ok v) :
    readWith yaml schemaName schemaText = check v value := by
  have hvalue : (liftM (Except.mapError Error.yaml (.ok value)) : Logged Error Json) = pure value :=
    rfl
  rw [readWith, hschema, hyaml]
  simp only [Logged.pure_bind, hvalue, hv]

/-- The ways in which reading by the text of a schema can end. -/
theorem readWith_cases (yaml schemaName schemaText : String) :
    (∃ e, Json.read schemaText = .error e ∧ readWith yaml schemaName schemaText =
      ⟨[⟨.error, .schema, "unable to decode JSON schema, cannot validate"⟩],
        .error (.schemaDecode schemaName e.message)⟩) ∨
    ∃ schema, Json.read schemaText = .ok schema ∧
      ((∃ fault, Yaml.read yaml = .error fault ∧
        readWith yaml schemaName schemaText = ⟨[], .error (.yaml fault)⟩) ∨
      ∃ value, Yaml.read yaml = .ok value ∧
        ((∃ fault, Validator.ofJson schema = .error fault ∧ readWith yaml schemaName schemaText =
          ⟨[⟨.error, .schema, "invalid schema, cannot validate"⟩],
            .error (.schemaInvalid schemaName fault.message)⟩) ∨
        ∃ v, Validator.ofJson schema = .ok v ∧
          readWith yaml schemaName schemaText = check v value)) := by
  cases hschema : Json.read schemaText with
  | error e =>
      refine .inl ⟨e, rfl, ?_⟩
      rw [readWith, hschema]
      rfl
  | ok schema =>
      refine .inr ⟨schema, rfl, ?_⟩
      cases hyaml : Yaml.read yaml with
      | error fault =>
          refine .inl ⟨fault, rfl, ?_⟩
          rw [readWith, hschema, hyaml]
          rfl
      | ok value =>
          refine .inr ⟨value, rfl, ?_⟩
          cases hv : Validator.ofJson schema with
          | error fault =>
              refine .inl ⟨fault, rfl, ?_⟩
              have hvalue : (liftM (Except.mapError Error.yaml (.ok value)) :
                  Logged Error Json) = pure value := rfl
              rw [readWith, hschema, hyaml]
              simp only [Logged.pure_bind, hvalue, hv]
              rfl
          | ok v => exact .inr ⟨v, rfl, readWith_eq_check hschema hyaml hv⟩

theorem result_readWith_eq_ok_iff (yaml schemaName schemaText : String) :
    (readWith yaml schemaName schemaText).result = .ok accepted ↔
      ∃ schema v, Json.read schemaText = .ok schema ∧ Yaml.read yaml = .ok accepted ∧
        Validator.ofJson schema = .ok v ∧ v.violations accepted = [] := by
  rcases readWith_cases yaml schemaName schemaText with ⟨e, hschema, hread⟩ |
    ⟨schema, hschema, ⟨fault, hyaml, hread⟩ |
      ⟨value, hyaml, ⟨fault, hv, hread⟩ | ⟨v, hv, hread⟩⟩⟩
  · simp [hread, hschema]
  · simp [hread, hyaml]
  · simp [hread, hschema, hv]
  · rw [hread, result_check_eq_ok_iff]
    constructor
    · rintro ⟨hnone, rfl⟩
      exact ⟨schema, v, hschema, hyaml, hv, hnone⟩
    · rintro ⟨schema', v', hschema', hyaml', hv', hnone⟩
      cases hschema.symm.trans hschema'
      cases hyaml.symm.trans hyaml'
      cases hv.symm.trans hv'
      exact ⟨hnone, rfl⟩

theorem read_container (yaml : String) :
    read yaml containerSchema = readWith yaml containerSchema Schema.containerText := by
  have htext : schemaText containerSchema = pure Schema.containerText := rfl
  rw [read, htext, Logged.pure_bind]

theorem read_container_eq_check {yaml : String} (h : Yaml.read yaml = .ok value) :
    read yaml containerSchema = check Schema.containerValidator value := by
  rw [read_container]
  exact readWith_eq_check Schema.read_containerText h Schema.ofJson_containerDocument

/-- A document in a file follows the schema of container files if it is YAML of their
format. -/
theorem result_ofFile_container_eq_ok_iff {s : FileStore} :
    (ofFile path containerSchema s).result = .ok accepted ↔
      ∃ yaml, s.readText path = .ok yaml ∧ Yaml.read yaml = .ok accepted ∧
        Schema.IsContainer accepted := by
  have htext : (schemaText containerSchema).result = .ok Schema.containerText := rfl
  have hread (yaml : String) : (read yaml containerSchema).result = .ok accepted ↔
      Yaml.read yaml = .ok accepted ∧ Schema.IsContainer accepted := by
    have haccepts : (∃ schema v, Json.read Schema.containerText = .ok schema ∧
        Yaml.read yaml = .ok accepted ∧ Validator.ofJson schema = .ok v ∧
        v.violations accepted = []) ↔
        Yaml.read yaml = .ok accepted ∧ Schema.IsContainer accepted := by
      rw [← Schema.violations_containerValidator_iff]
      -- The text of the schema stands for one validator only.
      constructor
      · rintro ⟨schema, v, hschema, hyaml, hv, hnone⟩
        cases Schema.read_containerText.symm.trans hschema
        cases Schema.ofJson_containerDocument.symm.trans hv
        exact ⟨hyaml, hnone⟩
      · rintro ⟨hyaml, hnone⟩
        exact ⟨_, _, Schema.read_containerText, hyaml, Schema.ofJson_containerDocument, hnone⟩
    rw [← haccepts, ← result_readWith_eq_ok_iff yaml containerSchema, read,
      Logged.result_bind_eq_ok_iff]
    simp only [htext, Except.ok.injEq, exists_eq_left']
  unfold ofFile
  rw [Logged.result_bind_eq_ok_iff]
  simp only [Logged.result_liftM, mapError_eq_ok_iff, hread]

/-! ## Documents that are not accepted -/

/-- A text that is no YAML, or whose value violates the schema of container files. -/
def IsFlawed (yaml : String) : Prop :=
  (∃ fault, Yaml.read yaml = .error fault) ∨
    ∃ value, Yaml.read yaml = .ok value ∧
      ∃ v, Schema.IsValidatorOf containerSchema v ∧ v.violations value ≠ []

/-- The file at a path cannot be read as a text, or the text is flawed. -/
def IsRefused (path : String) (s : FileStore) : Prop :=
  (∃ fault, s.readText path = .error fault) ∨
    ∃ yaml, s.readText path = .ok yaml ∧ IsFlawed yaml

theorem eq_containerValidator_of_isValidatorOf {v : Validator}
    (h : Schema.IsValidatorOf containerSchema v) : v = Schema.containerValidator := by
  obtain ⟨text, schema, htext, hschema, hv⟩ := h
  have hcontainer : schemaTexts.lookup containerSchema = some Schema.containerText := rfl
  obtain rfl : Schema.containerText = text := Option.some.inj (hcontainer.symm.trans htext)
  cases Schema.read_containerText.symm.trans hschema
  cases Schema.ofJson_containerDocument.symm.trans hv
  rfl

theorem isFlawed_iff {yaml : String} :
    IsFlawed yaml ↔ ¬ ∃ value, Yaml.read yaml = .ok value ∧ Schema.IsContainer value := by
  have hviolates (value : Json) : (∃ v, Schema.IsValidatorOf containerSchema v ∧
      v.violations value ≠ []) ↔ ¬ Schema.IsContainer value := by
    rw [← Schema.violations_containerValidator_iff]
    constructor
    · rintro ⟨v, hv, hsome⟩
      rwa [eq_containerValidator_of_isValidatorOf hv] at hsome
    · exact fun hsome => ⟨_, Schema.isValidatorOf_container, hsome⟩
  unfold IsFlawed
  simp only [hviolates]
  cases Yaml.read yaml with
  | error fault => simp
  | ok value => simp

/-- A document is read unless it is refused. -/
theorem result_ofFile_container_cases (path : String) (s : FileStore) :
    (IsRefused path s ∧ ∃ e, (ofFile path containerSchema s).result = .error e) ∨
      (¬ IsRefused path s ∧ ∃ value, (ofFile path containerSchema s).result = .ok value) := by
  have haccepted : ¬ IsRefused path s ↔
      ∃ value, (ofFile path containerSchema s).result = .ok value := by
    simp only [IsRefused, isFlawed_iff, result_ofFile_container_eq_ok_iff]
    cases s.readText path with
    | error fault => simp
    | ok yaml => simp
  cases hresult : (ofFile path containerSchema s).result with
  | error e =>
      left
      refine ⟨by_contra fun h => ?_, e, rfl⟩
      obtain ⟨value, hvalue⟩ := haccepted.mp h
      rw [hresult] at hvalue
      cases hvalue
  | ok value =>
      right
      exact ⟨haccepted.mpr ⟨value, hresult⟩, value, rfl⟩

end ImageBuild.Document
