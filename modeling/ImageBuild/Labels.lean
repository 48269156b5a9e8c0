import ImageBuild.OrderedMap

/-!
# Image labels

Labels are names with values.  Some well-known labels are spelled in two ways;
looking for a label by its kind finds the current spelling when it is there, and
the old one otherwise.
-/

namespace ImageBuild

/-- The well-known labels. -/
inductive LabelKind where
  | name
  | component
  | version
  | release
  | architecture
deriving DecidableEq, Repr

namespace LabelKind

/-- All well-known labels. -/
def all : List LabelKind :=
  [name, component, version, release, architecture]

/-- The current spelling. -/
def preferred : LabelKind → String
  | name => "name"
  | component => "com.redhat.component"
  | version => "version"
  | release => "release"
  | architecture => "architecture"

/-- The old spelling. -/
def legacy : LabelKind → String
  | name => "Name"
  | component => "BZComponent"
  | version => "Version"
  | release => "Release"
  | architecture => "Architecture"

/-- The accepted spellings, the current one first. -/
def spellings (kind : LabelKind) : List String :=
  [kind.preferred, kind.legacy]

end LabelKind

/-- The labels of an image, in ascending order of their names. -/
abbrev Labels := OrderedMap String

namespace Labels

/-- The name and the value of the first spelling of a well-known label that is
there. -/
def find? (kind : LabelKind) (labels : Labels) : Option (String × String) :=
  kind.spellings.findSome? fun name => (labels.get? name).map fun value => (name, value)

/-- The value of a well-known label. -/
def value? (kind : LabelKind) (labels : Labels) : Option String :=
  (labels.find? kind).map Prod.snd

end Labels

end ImageBuild
