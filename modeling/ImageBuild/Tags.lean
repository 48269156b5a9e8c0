import ImageBuild.Error
import ImageBuild.Files.Store
import ImageBuild.Log
import ImageBuild.OrderedMap
import ImageBuild.Text.Word

/-!
# Additional tags

An image gets additional tags, either from a list or, when that is empty, from
the lines of a file.  Texts that are no tags are left out with a warning.
-/

namespace ImageBuild

/-- The tags of an image, and where they come from. -/
structure AdditionalTags where
  tags : NameSet
  isFromList : Bool
  filePath : String
deriving DecidableEq

namespace AdditionalTags

/-- The name of the file with additional tags. -/
def defaultFileName : String := "additional-tags"

/-- What tags have to match, in writing. -/
def tagPattern : String := "^[\\w.]\x7b0,127\x7d$"

/-- A tag has 1 to 127 characters, which are points or occur in words. -/
def isTag (text : List Char) : Bool :=
  !text.isEmpty && text.length ≤ 127 && text.all fun c => c == '.' || Text.isWordChar c

/-- The warning that a text is no tag. -/
def refusal (text : String) : LogRecord :=
  ⟨.warn, .tags,
    "Invalid additional tag \"" ++ text ++ "\", must match pattern " ++ tagPattern⟩

/-- The warnings for the texts of a list; empty texts are passed over. -/
def refusals (texts : List String) : List LogRecord :=
  (texts.filter fun text => !text.isEmpty && !isTag text.toList).map refusal

/-- The tags of a list. -/
def select {ε : Type} (texts : List String) : Logged ε NameSet :=
  ⟨refusals texts, .ok (NameSet.ofList (texts.filter fun text => isTag text.toList))⟩

/-- The lines of a text without the blanks around them. -/
def trimmedLines (content : String) : List String :=
  (Text.lines content.toList).map fun line => String.ofList (Text.trim line)

/-- The tags of a list, or of a file when the list is empty. -/
def read (directory fileName : String) (texts : List String) (s : FileStore) :
    Logged Error AdditionalTags := do
  let path := joinPath directory fileName
  if texts.isEmpty then
    if s.holds path then
      Logged.note .debug .tags s!"Reading additional tags from {path}"
      let content ← (s.readText path).mapError Error.file
      return { tags := ← select (trimmedLines content), isFromList := false, filePath := path }
    else
      return { tags := NameSet.ofList [], isFromList := false, filePath := path }
  else
    let tags ← select texts
    Logged.note .warn .tags
      "Tags were read from container.yaml file. Additional tags are being ignored!"
    return { tags, isFromList := true, filePath := path }

/-- The tags of the file in a directory. -/
def ofDirectory (directory : String) (s : FileStore) : Logged Error AdditionalTags :=
  read directory defaultFileName [] s

/-- No tags, from no file. -/
def empty : AdditionalTags := { tags := NameSet.ofList [], isFromList := false, filePath := "" }

end AdditionalTags

end ImageBuild
