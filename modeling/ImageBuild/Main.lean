import ImageBuild.CommandLine.Outcome

/-!
# The program

Reads the files that a command line is about, runs it on them, and writes what
comes out.
-/

namespace ImageBuild.CommandLine

/-- Why a file cannot be read. -/
def faultOf : IO.Error → FileFault
  | .permissionDenied _ code details => ⟨.permissionDenied, s!"{details} (os error {code})"⟩
  | e => ⟨.other, toString e⟩

/-- The file at the end of a path. -/
def readFile (path : String) : IO FileEntry := do
  try
    return .ofBytes (← IO.FS.readBinFile path).toList
  catch e => return .unreadable (faultOf e)

/-- What stands at the end of a path, if anything does. -/
def readEntry (path : String) : IO (Option FileEntry) := do
  try
    let place ← IO.FS.realPath path
    if ← place.isDir then return some .directory
    else return some (← readFile path)
  catch _ => return none

/-- Put what stands at the end of a path into a store, if it can be reached. -/
def addEntry (s : FileStore) (path : String) : IO FileStore := do
  match ← readEntry path with
  | none => return s
  | some entry =>
      match s.write path entry with
      | .ok s => return s
      | .error _ => return s

/-- The paths to all that a path leads through, from the first name on. -/
def pathsTowards (path : String) : List String :=
  let names := FileStore.namesOf path
  (List.range names.length).map fun n => "/".intercalate (names.take (n + 1))

/-- The files at the ends of some paths, with the directories on the way to them.  The
working directory stands at its own place, so that paths may lead out of it. -/
def readFiles (paths : List String) : IO FileStore := do
  let names := FileStore.namesOf (← IO.currentDir).toString
  let start : FileStore := { workingDirectory := names.filter (· ≠ ""), entries := [] }
  ("." :: paths.flatMap pathsTowards).foldlM addEntry start

/-- The outcome of a command line on the files that are there. -/
def runOnDisk (words : List String) : IO Outcome := do
  match readCommandLine words with
  | .error h => return h.outcome
  | .ok invocation =>
      let s ← readFiles invocation.action.paths
      return (invocation.action.report s).outcome invocation.logLevel

end ImageBuild.CommandLine

open ImageBuild.CommandLine

def main (words : List String) : IO UInt32 := do
  let outcome ← runOnDisk words
  (← IO.getStdout).putStr outcome.standardOutput
  (← IO.getStderr).putStr outcome.standardError
  return outcome.exitCode.toUInt32
