import ImageBuild.Decimal.Shortest
import ImageBuild.Text.Quoted

/-!
# Faults in INI text

What can be wrong with an INI text, and where.  A fault is found at a character
or at the end of the text; lines and columns count from one, and the column is
the one behind the last character that was looked at.
-/

namespace ImageBuild.Ini

/-- What is wrong at a place of an INI text.  `none` stands for the end. -/
inductive Flaw where
  | commentBehindText
  | keyMissing
  | ended (expected : List (Option Char))
  | badCode
  | unfinishedLine (found : Option Char)
deriving DecidableEq, Repr

/-- A character between single quotes. -/
def quotedChar (c : Char) : List Char :=
  let body :=
    if c = '"' then ['"']
    else if c = '\x27' then ['\\', '\x27']
    else Text.quoteChar c
  '\x27' :: body ++ ['\x27']

/-- A character or the end of the text in words. -/
def describe : Option Char → String
  | some c => s!"Some({String.ofList (quotedChar c)})"
  | none => "None"

/-- The wording of a flaw. -/
def Flaw.message : Flaw → String
  | commentBehindText => "doesn't support inline comment"
  | keyMissing => "missing key"
  | ended expected =>
      "expecting \"[" ++ ", ".intercalate (expected.map describe) ++ "]\" but found EOF."
  | badCode => "unknown character in \\xHH form"
  | unfinishedLine found => "expecting \"\\\\n\" but found \"" ++ describe found ++ "\"."

/-- A flaw, and what is left of the text from the character on that it was found
at. -/
structure Stop where
  flaw : Flaw
  rest : List Char
deriving DecidableEq, Repr

/-- The lines that end before the last of the characters read, and the
characters read on its own line. -/
def placeBehind (read : List Char) : Nat × Nat :=
  read.foldl (fun (line, column) c => if c = '\n' then (line + 1, 0) else (line, column + 1)) (0, 0)

/-- The place of the character that what is left of a text starts with. -/
def placeOf (text rest : List Char) : Nat × Nat :=
  placeBehind (text.take (text.length - rest.length + if rest.isEmpty then 0 else 1))

/-- A flaw with its place. -/
structure Fault where
  flaw : Flaw
  line : Nat
  column : Nat
deriving DecidableEq, Repr

/-- The text of a flaw with its place. -/
def Fault.message (f : Fault) : String :=
  s!"{f.line}:{f.column} {f.flaw.message}"

/-- The fault that ended the reading of a text. -/
def Stop.toFault (text : List Char) (stop : Stop) : Fault :=
  let (line, column) := placeOf text stop.rest
  ⟨stop.flaw, line + 1, column + 1⟩

end ImageBuild.Ini
