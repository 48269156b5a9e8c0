import ImageBuild.Ini.Reader
import ImageBuild.OrderedMap

/-!
# Settings by section

Settings have a value for each key of a section, and for keys in front of the
first section.  Entries are laid over settings one after the other: each gives
its key another value, or opens a section that is not there yet.
-/

namespace ImageBuild.Ini

/-- The values of keys in front of the first section, and of the keys of each
section. -/
structure Sections where
  unnamed : OrderedMap String
  named : OrderedMap (OrderedMap String)

namespace Sections

/-- No settings. -/
def empty : Sections := ⟨.empty, .empty⟩

/-- Give a key a value, instead of the one that it has. -/
def set (heading : Option String) (key value : String) (s : Sections) : Sections :=
  match heading with
  | none => { s with unnamed := s.unnamed.insert key value }
  | some name =>
      let values := (s.named.get? name).getD .empty
      { s with named := s.named.insert name (values.insert key value) }

/-- The value of a key of a section. -/
def get? (name key : String) (s : Sections) : Option String :=
  (s.named.get? name).bind fun values => values.get? key

/-- Lay entries over settings.  Their keys are taken without regard to the case of
ASCII letters. -/
def overlay (entries : List Entry) (s : Sections) : Sections :=
  entries.foldl (fun s e =>
    s.set e.heading (String.ofList (e.key.toList.map Text.lowerAscii)) e.value) s

end Sections

end ImageBuild.Ini
