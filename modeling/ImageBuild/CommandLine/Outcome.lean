import ImageBuild.CommandLine.LogFilter
import ImageBuild.CommandLine.Report

/-!
# Running the program

What the program writes to its two outputs, and its exit code, for a command line
and given files.
-/

namespace ImageBuild.CommandLine

/-- The exit code and what is written to the two outputs. -/
structure Outcome where
  exitCode : Nat
  standardOutput : String
  standardError : String
deriving DecidableEq, Repr

/-- The outcome of a command line that is not carried out. -/
def Halt.outcome : Halt → Outcome
  | help c isDetailed => ⟨0, helpText c isDetailed, ""⟩
  | version => ⟨0, s!"{versionText}\n", ""⟩
  | nothing => ⟨2, "", helpText program false⟩
  | misuse m => ⟨2, "", m.text⟩

/-- A failure in writing. -/
def Failure.text (f : Failure) : String :=
  let cause := match f.cause with
    | some cause => s!"\n\nCaused by:\n    {indentLines cause}"
    | none => ""
  s!"Error: {f.message}{cause}\n"

/-- The outcome of a report, with what is seen of the log. -/
def Report.outcome (logLevel : String) (r : Report) : Outcome :=
  let (filter, complaints) := LogFilter.read logLevel
  let warnings := complaints.map fun complaint => s!"warning: {complaint}, ignoring it\n"
  let records := (r.records.filter filter.admits).map recordText
  { exitCode := if r.failure.isSome then 1 else 0
    standardOutput := String.join (r.lines.map (· ++ "\n"))
    standardError :=
      String.join (warnings ++ records) ++ ((r.failure.map Failure.text).getD "") }

/-- Run the program. -/
def run (words : List String) (s : FileStore) : Outcome :=
  match readCommandLine words with
  | .error h => h.outcome
  | .ok invocation => (invocation.action.report s).outcome invocation.logLevel

end ImageBuild.CommandLine
