/-!
# Faults of file access

Why a file or another source of text could not be read, as a kind and a text.
-/

namespace ImageBuild

/-- The kinds of faults. -/
inductive FileFault.Kind where
  | notFound
  | permissionDenied
  | isADirectory
  | notADirectory
  | alreadyExists
  | invalidData
  | other
deriving DecidableEq, Repr

/-- The name of a kind. -/
def FileFault.Kind.name : FileFault.Kind → String
  | notFound => "NotFound"
  | permissionDenied => "PermissionDenied"
  | isADirectory => "IsADirectory"
  | notADirectory => "NotADirectory"
  | alreadyExists => "AlreadyExists"
  | invalidData => "InvalidData"
  | other => "Other"

/-- A fault of file access. -/
structure FileFault where
  kind : FileFault.Kind
  text : String
deriving DecidableEq, Repr

namespace FileFault

/-- Nothing stands at a path. -/
def notFound : FileFault := ⟨.notFound, "No such file or directory (os error 2)"⟩

/-- A directory stands where a file is needed. -/
def isADirectory : FileFault := ⟨.isADirectory, "Is a directory (os error 21)"⟩

/-- A file stands where a directory is needed. -/
def notADirectory : FileFault := ⟨.notADirectory, "Not a directory (os error 20)"⟩

/-- Something stands where a directory is to be made. -/
def alreadyExists : FileFault := ⟨.alreadyExists, "File exists (os error 17)"⟩

/-- The bytes of a file are no text. -/
def notText : FileFault := ⟨.invalidData, "stream did not contain valid UTF-8"⟩

end FileFault

end ImageBuild
