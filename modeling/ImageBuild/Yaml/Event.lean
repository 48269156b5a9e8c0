import ImageBuild.Yaml.Token

/-!
# Events of YAML documents

The nodes of documents in the order of the text: scalars, aliases, and the
starts and ends of collections and documents.  An event is marked with the
place at which its node begins.
-/

namespace ImageBuild.Yaml

/-- The anchor and the full tag in front of a node. -/
structure Properties where
  anchor : Option (List Char)
  tag : Option (List Char)
deriving DecidableEq, Repr

/-- A node without anchor and tag. -/
def Properties.none : Properties := ⟨Option.none, Option.none⟩

/-- What an event stands for. -/
inductive EventKind where
  | documentStart
  | documentEnd
  | reference (name : List Char)
  | scalar (properties : Properties) (text : List Char) (plain : Bool)
  | sequenceStart (properties : Properties)
  | sequenceEnd
  | mappingStart (properties : Properties)
  | mappingEnd
deriving DecidableEq, Repr

/-- An event with the place at which it begins. -/
structure Event where
  kind : EventKind
  mark : Mark
deriving DecidableEq, Repr

/-- The scalar that stands where a node was left out. -/
def Event.empty (mark : Mark) : Event :=
  { kind := .scalar Properties.none [] true, mark }

end ImageBuild.Yaml
