import ImageBuild.Error
import ImageBuild.Text.Blank

/-!
# Module specifications

A module specification names a module that an image is composed of, as
`NAME:STREAM[:VERSION[:CONTEXT]][/PROFILE]`.  The profile is what stands behind
the last slash; all before it is divided at its colons.
-/

namespace ImageBuild

/-- A module to be composed into an image. -/
structure ModuleSpec where
  name : String
  stream : String
  version : Option String
  context : Option String
  profile : Option String
deriving DecidableEq, Repr

/-- Why a text is no module specification; the text in front of the profile is
kept. -/
inductive ModuleSpec.Flaw where
  | segmentCount (segments : String)
  | emptyField (segments : String)
deriving DecidableEq, Repr

/-- The wording of a flaw. -/
def ModuleSpec.Flaw.message : ModuleSpec.Flaw → String
  | segmentCount segments =>
      s!"Module specification {segments} should be in " ++
        "NAME:STREAM[:VERSION[:CONTEXT]][/PROFILE] format"
  | emptyField segments => s!"Module specification {segments} contains empty fields"

namespace ModuleSpec

/-- A separator and a field behind it, if there is one. -/
def field (separator : Char) : Option String → List Char
  | some s => separator :: s.toList
  | none => []

/-- The written form without the profile. -/
def writeSegments (m : ModuleSpec) : List Char :=
  m.name.toList ++ ':' :: m.stream.toList ++ field ':' m.version ++ field ':' m.context

/-- The written form. -/
def write (m : ModuleSpec) : List Char :=
  m.writeSegments ++ field '/' m.profile

/-- A specification as a text, with or without its profile. -/
def toText (m : ModuleSpec) (withProfile : Bool) : String :=
  String.ofList (if withProfile then m.write else m.writeSegments)

/-- A text divided at its last slash. -/
def cutProfile (text : List Char) : List Char × Option (List Char) :=
  match Text.cutLast '/' text with
  | some (segments, profile) => (segments, some profile)
  | none => (text, none)

/-- The specification with given segments. -/
def ofSegments? (profile : Option String) : List (List Char) → Option ModuleSpec
  | [name, stream] => some ⟨.ofList name, .ofList stream, none, none, profile⟩
  | [name, stream, version] =>
      some ⟨.ofList name, .ofList stream, some (.ofList version), none, profile⟩
  | [name, stream, version, context] =>
      some ⟨.ofList name, .ofList stream, some (.ofList version), some (.ofList context), profile⟩
  | _ => none

/-- Read a specification.  The number of segments is judged before their being
empty. -/
def read (text : List Char) : Except Flaw ModuleSpec :=
  let (written, profile) := cutProfile text
  let segments := Text.splitOn ':' written
  match ofSegments? (profile.map String.ofList) segments with
  | none => .error (.segmentCount (String.ofList written))
  | some m =>
      if segments.any List.isEmpty || profile = some [] then
        .error (.emptyField (String.ofList written))
      else .ok m

/-- The specification that a text writes. -/
def ofText (text : String) : Except Error ModuleSpec :=
  (read text.toList).mapError fun flaw => .invalidModuleSpec text flaw.message

/-- The outcomes of a list, the successes and the failures each in order. -/
def outcomes : List String → List ModuleSpec × List Error
  | [] => ([], [])
  | text :: rest =>
      let (specs, errors) := outcomes rest
      match ofText text with
      | .ok m => (m :: specs, errors)
      | .error e => (specs, e :: errors)

/-- The specifications that the texts of a list write, or all failures among
them. -/
def ofTexts (texts : List String) : Except Error (List ModuleSpec) :=
  match outcomes texts with
  | (specs, []) => .ok specs
  | (_, errors) => .error (.moduleSpecs errors)

end ModuleSpec

end ImageBuild
