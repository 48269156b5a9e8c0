import ImageBuild.Files.Fault
import ImageBuild.Yaml.Fault

/-!
# Errors

All that can go wrong when the build configuration of a repository is read, with
what a reader needs to know about it, and the wording of each error.
-/

namespace ImageBuild

/-- Why something could not be read. -/
inductive Error where
  /-- There is no schema of a name. -/
  | schemaUnavailable (schema reason : String)
  /-- The text of a schema is not JSON. -/
  | schemaDecode (schema reason : String)
  /-- A schema cannot be used. -/
  | schemaInvalid (schema reason : String)
  /-- A document violates its schema, each message naming the place. -/
  | validation (messages : List String)
  /-- A text is no module specification. -/
  | invalidModuleSpec (spec reason : String)
  /-- Some texts of a list are no module specifications. -/
  | moduleSpecs (errors : List Error)
  /-- Something that is needed is not there. -/
  | missingRequiredField (reason : String)
  /-- The labels or the base image could not be read from a Dockerfile. -/
  | dockerfileRead (path : String) (fault : FileFault)
  /-- The container file cannot be used. -/
  | containerFile (path reason : String)
  /-- The settings file cannot be used. -/
  | settingsFile (path reason : String)
  /-- A file could not be read. -/
  | file (fault : FileFault)
  /-- A document is not YAML. -/
  | yaml (fault : Yaml.Fault)

namespace Error

mutual

/-- The wording of an error. -/
def message : Error → String
  | schemaUnavailable schema reason => s!"Unable to extract JSON schema {schema}: {reason}"
  | schemaDecode schema reason => s!"Unable to decode JSON schema {schema}: {reason}"
  | schemaInvalid schema reason => s!"Invalid JSON schema {schema}: {reason}"
  | validation messages => "\n".intercalate messages
  | invalidModuleSpec _ reason => reason
  | moduleSpecs errors => "Invalid module specifications: " ++ "; ".intercalate (messagesOf errors)
  | missingRequiredField reason => reason
  | dockerfileRead path fault => s!"Could not parse Dockerfile in {path}: {fault.text}"
  | containerFile path reason =>
      "Failed to load or validate container file \"" ++ path ++ "\": " ++ reason
  | settingsFile path reason =>
      "Failed to read repository config file \"" ++ path ++ "\": " ++ reason
  | file fault => s!"I/O error: {fault.text}"
  | yaml fault => s!"YAML parsing error: {fault.message}"

/-- The wordings of errors. -/
def messagesOf : List Error → List String
  | [] => []
  | e :: rest => e.message :: messagesOf rest

end

/-- The text of the fault that an error comes from. -/
def cause? : Error → Option String
  | dockerfileRead _ fault | file fault => some fault.text
  | yaml fault => some fault.message
  | _ => none

end Error

end ImageBuild
