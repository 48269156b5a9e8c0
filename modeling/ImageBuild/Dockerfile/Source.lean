import ImageBuild.Dockerfile.Content
import ImageBuild.Files.Store

/-!
# Where labels and base images come from

A source answers calls for the labels and for the base image.  Its answers may
depend on the files at that time and on how many such calls there were before,
and each may be a fault.  A Dockerfile is read anew for each call.
-/

namespace ImageBuild

/-- A source of labels and base images.  Each answer is given for the number of
calls of its kind that came before and for the files at that time. -/
structure DockerfileSource where
  path : String
  labels : Nat → FileStore → Except FileFault Labels
  baseImage : Nat → FileStore → Except FileFault (Option String)

namespace DockerfileSource

/-- The path of the Dockerfile that a path stands for: in a directory it has a
name of its own. -/
def pathOf (path : String) (s : FileStore) : String :=
  if s.isDirectory path then joinPath path "Dockerfile" else path

/-- The source that reads the file at a path. -/
def ofFile (path : String) : DockerfileSource where
  path
  labels _ s := (s.readText path).map Dockerfile.labelsOf
  baseImage _ s := (s.readText path).map Dockerfile.baseImageOf?

/-- The source that a path stands for. -/
def ofPath (path : String) (s : FileStore) : DockerfileSource :=
  ofFile (pathOf path s)

/-- The answer to a call, the last one of a list being repeated. -/
def answer? {α : Type} (answers : List α) (calls : Nat) : Option α :=
  answers[calls]?.or answers.getLast?

/-- The source that gives answers from lists. -/
def scripted (path : String) (labels : List (Except FileFault Labels))
    (baseImages : List (Except FileFault (Option String))) : DockerfileSource where
  path
  labels calls _ := (answer? labels calls).getD (.ok OrderedMap.empty)
  baseImage calls _ := (answer? baseImages calls).getD (.ok none)

end DockerfileSource

end ImageBuild
