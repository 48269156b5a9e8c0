import ImageBuild.Files.Fault
import ImageBuild.Text.Blank

/-!
# Files

A store holds files and directories as a value that is passed around.  Paths are
texts; they lead from the working directory on, or from the root if they start
with a slash, one name after the other.
-/

namespace ImageBuild

/-- A path with a name behind it.  An absolute name stands for itself. -/
def joinPath (directory name : String) : String :=
  match name.toList with
  | '/' :: _ => name
  | _ =>
      match directory.toList.getLast? with
      | none | some '/' => directory ++ name
      | some _ => directory ++ "/" ++ name

/-- What stands at a place: a file with a text, a file whose bytes are no text, a
file that cannot be read for a reason of its own, or a directory. -/
inductive FileEntry where
  | text (content : String)
  | binary
  | unreadable (fault : FileFault)
  | directory
deriving DecidableEq, Repr

/-- A file with given bytes. -/
def FileEntry.ofBytes (bytes : List UInt8) : FileEntry :=
  match String.fromUTF8? ⟨bytes.toArray⟩ with
  | some content => .text content
  | none => .binary

/-- Files and directories by the names that lead to them from the root, which is
always there, and the directory that relative paths start from. -/
structure FileStore where
  workingDirectory : List String
  entries : List (List String × FileEntry)
deriving DecidableEq, Repr

namespace FileStore

/-- What stands at the end of names. -/
def entry? (s : FileStore) (names : List String) : Option FileEntry :=
  if names.isEmpty then some .directory
  else (s.entries.find? fun (other, _) => other == names).map Prod.snd

/-- Follow one more name from a place.  Only a directory can be entered, and also
the empty name and the point, which stay where they are, need one. -/
def follow (s : FileStore) (place : List String) (name : String) :
    Except FileFault (List String) :=
  match s.entry? place with
  | none => .error .notFound
  | some .directory =>
      if name = "" ∨ name = "." then .ok place
      else if name = ".." then .ok place.dropLast
      else if (s.entry? (place ++ [name])).isSome then .ok (place ++ [name])
      else .error .notFound
  | some _ => .error .notADirectory

/-- The names of a path. -/
def namesOf (path : String) : List String :=
  (Text.splitOn '/' path.toList).map String.ofList

/-- The place that a path starts from. -/
def startOf (s : FileStore) (path : String) : List String :=
  if path.toList.head? = some '/' then [] else s.workingDirectory

/-- The place that a path leads to. -/
def locate (s : FileStore) (path : String) : Except FileFault (List String) :=
  if path = "" then .error .notFound
  else (namesOf path).foldlM s.follow (s.startOf path)

/-- What stands at the end of a path. -/
def find (s : FileStore) (path : String) : Except FileFault FileEntry := do
  let place ← s.locate path
  match s.entry? place with
  | some entry => return entry
  | none => throw .notFound

/-- Something stands at the end of a path. -/
def holds (s : FileStore) (path : String) : Bool :=
  match s.find path with
  | .ok _ => true
  | .error _ => false

/-- A directory stands at the end of a path. -/
def isDirectory (s : FileStore) (path : String) : Bool :=
  match s.find path with
  | .ok .directory => true
  | _ => false

/-- The text of the file at the end of a path. -/
def readText (s : FileStore) (path : String) : Except FileFault String := do
  match ← s.find path with
  | .text content => return content
  | .binary => throw .notText
  | .unreadable fault => throw fault
  | .directory => throw .isADirectory

/-- The place of a new entry at the end of a path. -/
def newPlaceOf (s : FileStore) (path : String) : List String :=
  (namesOf path).foldl (fun place name =>
    if name = "" ∨ name = "." then place
    else if name = ".." then place.dropLast
    else place ++ [name]) (s.startOf path)

/-- Put an entry at a place, instead of the one that stood there. -/
def put (s : FileStore) (place : List String) (entry : FileEntry) : FileStore :=
  { s with entries := (place, entry) :: s.entries.filter fun (other, _) => other != place }

/-- Make the directories on the way to a place, `done` being the names that are
behind. -/
def makeDirectories (s : FileStore) (done : List String) :
    List String → Except FileFault FileStore
  | [] => .ok s
  | name :: rest =>
      let place := done ++ [name]
      match s.entry? place with
      | none => makeDirectories (s.put place .directory) place rest
      | some .directory => makeDirectories s place rest
      | some _ => .error (if rest.isEmpty then .alreadyExists else .notADirectory)

/-- Write a file, or make a directory, with the directories that it needs. -/
def write (s : FileStore) (path : String) (entry : FileEntry) : Except FileFault FileStore := do
  let place := s.newPlaceOf path
  let s ← s.makeDirectories [] place.dropLast
  match entry, s.entry? place with
  | .directory, some .directory => return s
  | .directory, some _ => throw .alreadyExists
  | _, some .directory => throw .isADirectory
  | _, _ => return s.put place entry

/-- Remove a file, or a directory with all that it holds. -/
def remove (s : FileStore) (path : String) : Except FileFault FileStore := do
  let place ← s.locate path
  return { s with entries := s.entries.filter fun (other, _) => !place.isPrefixOf other }

end FileStore

end ImageBuild
