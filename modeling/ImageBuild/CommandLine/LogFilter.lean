import ImageBuild.Log
import ImageBuild.Pattern.Reader

/-!
# What of the log is seen

A filter tells for each topic up to which level its records are seen, and may ask
for a pattern in their texts.  It is written as a list of directives, each a level
for all topics, or a name that topics start with, an equals sign and a level; a
pattern stands behind a slash.
-/

namespace ImageBuild.CommandLine

/-- A level for the topics that start with a name.  The level is a count of levels
from the most serious one on. -/
structure LogDirective where
  name : Option String
  levels : Nat
deriving DecidableEq, Repr

/-- What of the log is seen. -/
structure LogFilter where
  directives : List LogDirective
  pattern : Option Pattern.Node

/-- The place of a level, from the most serious one on. -/
def levelRank : LogLevel → Nat
  | .error => 1
  | .warn => 2
  | .info => 3
  | .debug => 4
  | .trace => 5

/-- The number of levels that a word stands for, in any case. -/
def levels? (word : String) : Option Nat :=
  let lower := String.ofList (word.toList.map Text.lowerAscii)
  ["off", "error", "warn", "info", "debug", "trace"].idxOf? lower

namespace LogFilter

/-- A directive in place of one for the same name. -/
def insert (d : LogDirective) (directives : List LogDirective) : List LogDirective :=
  if directives.any fun other => other.name == d.name then
    directives.map fun other => if other.name = d.name then d else other
  else directives ++ [d]

/-- The directive that a text writes, or a complaint. -/
def readDirective (text : String) : Except String LogDirective :=
  match (Text.splitOn '=' text.toList).map String.ofList with
  | [word] =>
      match levels? word with
      | some levels => .ok ⟨none, levels⟩
      | none => .ok ⟨some word, 5⟩
  | [name, level] =>
      let level := String.ofList (Text.trim level.toList)
      if level = "" then .ok ⟨some name, 5⟩
      else
        match levels? level with
        | some levels => .ok ⟨some name, levels⟩
        | none => .error s!"invalid logging spec '{level}'"
  | _ => .error s!"invalid logging spec '{text}'"

/-- Read directives one after the other, with complaints about those that say
nothing. -/
def readDirectives : List String → List LogDirective × List String
  | [] => ([], [])
  | text :: rest =>
      let (directives, complaints) := readDirectives rest
      match readDirective text with
      | .ok d => (d :: directives, complaints)
      | .error complaint => (directives, complaint :: complaints)

/-- The filter that a text writes, with complaints. -/
def read (text : String) : LogFilter × List String :=
  let ofWritten (written : List Char) (pattern : Option Pattern.Node) : LogFilter × List String :=
    let parts := (Text.splitOn ',' written).map fun part => String.ofList (Text.trim part)
    let (directives, complaints) := readDirectives (parts.filter fun part => part != "")
    (⟨directives.foldl (fun ds d => insert d ds) [], pattern⟩, complaints)
  match Text.splitOn '/' text.toList with
  | [written] => ofWritten written none
  | [written, pattern] =>
      match Pattern.Node.ofText? pattern with
      | some node => ofWritten written (some node)
      | none =>
          let (filter, complaints) := ofWritten written none
          (filter, complaints ++ ["invalid regex filter - regex parse error"])
  | _ => (⟨[], none⟩, [s!"invalid logging spec '{text}' (too many '/'s)"])

/-- The number of levels that are seen of a topic: the longest name decides, and
of several of one length the last. -/
def levelsOf (filter : LogFilter) (topic : LogTopic) : Nat :=
  if filter.directives.isEmpty then 1
  else
    let length (d : LogDirective) := (d.name.map String.utf8ByteSize).getD 0
    let fitting := filter.directives.filter fun d =>
      match d.name with
      | some name => topic.name.startsWith name
      | none => true
    let best := fitting.foldl (fun (best : Option LogDirective) d =>
      match best with
      | some other => if length d < length other then some other else some d
      | none => some d) none
    (best.map LogDirective.levels).getD 0

/-- A record is seen. -/
def admits (filter : LogFilter) (r : LogRecord) : Bool :=
  decide (levelRank r.level ≤ filter.levelsOf r.topic) &&
    match filter.pattern with
    | some node => node.foundIn r.text.toList
    | none => true

end LogFilter

/-- A text whose lines behind the first are indented. -/
def indentLines (text : String) : String :=
  "\n    ".intercalate ((Text.splitOn '\n' text.toList).map String.ofList)

/-- A record in writing. -/
def recordText (r : LogRecord) : String :=
  let blank := if r.level.name.length < 5 then " " else ""
  s!"[{r.level.name}{blank} {r.topic.name}] {indentLines r.text}\n"

end ImageBuild.CommandLine
