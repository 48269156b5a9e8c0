import ImageBuild.Error
import ImageBuild.Files.Store
import ImageBuild.Json.Reader
import ImageBuild.Log
import ImageBuild.Schema.Container
import ImageBuild.Schema.Validator
import ImageBuild.Yaml.Reader

/-!
# Documents that follow a schema

A document is YAML text whose value follows a schema.  Some schemas are at hand
under a name; the schema may also be given as a text.  What is wrong with a
schema or a value is logged; a value is reported with all its violations.
-/

namespace ImageBuild.Document

/-- The name of the schema of container files. -/
def containerSchema : String := "schemas/container.json"

/-- The schemas at hand, by their names. -/
def schemaTexts : List (String × String) :=
  [(containerSchema, Schema.containerText)]

/-- Log that something is wrong with a schema or a value. -/
def noteError (text : String) : Logged Error Unit :=
  .note .error .schema text

/-- The text of the schema of a name. -/
def schemaText (name : String) : Logged Error String :=
  match schemaTexts.lookup name with
  | some text => pure text
  | none => do
      noteError "unable to extract JSON schema, cannot validate"
      .fail (.schemaUnavailable name "no such bundled resource")

/-- Where a violation is, in words. -/
def location (v : Violation) : String :=
  if v.pathString = "" then "at top level" else v.pathString

/-- A violation in one line. -/
def report (v : Violation) : String :=
  s!"{location v}: {v.message}"

/-- The record of a violation. -/
def record (v : Violation) : LogRecord :=
  ⟨.error, .schema, s!"validation error ({location v}): {v.message}"⟩

/-- Accept a value without violations. -/
def check (validator : Validator) (value : Json) : Logged Error Json :=
  match validator.violations value with
  | [] => pure value
  | violations => ⟨violations.map record, .error (.validation (violations.map report))⟩

/-- The value of a document that follows a schema, given by its text.  The
schema has to be JSON before the document is read, and is judged after that. -/
def readWith (yaml schemaName schemaText : String) : Logged Error Json := do
  let schema ← match Json.read schemaText with
    | .ok schema => pure schema
    | .error e => do
        noteError "unable to decode JSON schema, cannot validate"
        .fail (.schemaDecode schemaName e.message)
  let value ← (Yaml.read yaml).mapError Error.yaml
  let validator ← match Validator.ofJson schema with
    | .ok validator => pure validator
    | .error fault => do
        noteError "invalid schema, cannot validate"
        .fail (.schemaInvalid schemaName fault.message)
  check validator value

/-- The value of a document that follows the schema of a name. -/
def read (yaml schemaName : String) : Logged Error Json := do
  let text ← schemaText schemaName
  readWith yaml schemaName text

/-- The value of the document in a file that follows the schema of a name. -/
def ofFile (path schemaName : String) (s : FileStore) : Logged Error Json := do
  let yaml ← (s.readText path).mapError Error.file
  read yaml schemaName

end ImageBuild.Document
