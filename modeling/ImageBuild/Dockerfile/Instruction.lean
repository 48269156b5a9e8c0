import ImageBuild.Text.Blank

/-!
# Dockerfile instructions

A Dockerfile is a list of instructions, each a keyword with arguments.  A line
that ends in a backslash is continued by the next one; lines that start with a
number sign are comments, also between a line and its continuation.  Text that
is still to be continued at the end of the file belongs to no instruction.
-/

namespace ImageBuild.Dockerfile

/-- An instruction: its keyword in capitals, and its arguments. -/
structure Instruction where
  keyword : List Char
  arguments : List Char
deriving DecidableEq, Repr

namespace Instruction

/-- The instruction that a text without line breaks writes; blanks alone write
none. -/
def ofText? (text : List Char) : Option Instruction :=
  match Text.trim text with
  | [] => none
  | trimmed =>
      some {
        keyword := (trimmed.takeWhile fun c => !Text.isBlank c).map Text.upperAscii
        arguments := Text.trim (trimmed.dropWhile fun c => !Text.isBlank c) }

/-- The instructions of lines, with text in front that is to be continued. -/
def ofLines (pending : List Char) : List (List Char) → List Instruction
  | [] => []
  | line :: rest =>
      let trimmed := Text.trim line
      if trimmed.head? = some '#' ∨ (trimmed.isEmpty ∧ pending.isEmpty) then
        ofLines pending rest
      else if trimmed.getLast? = some '\\' then
        ofLines (pending ++ trimmed.dropLast ++ [' ']) rest
      else (ofText? (pending ++ trimmed)).toList ++ ofLines [] rest

end Instruction

/-- The instructions of a Dockerfile. -/
def instructions (content : List Char) : List Instruction :=
  Instruction.ofLines [] (Text.lines content)

end ImageBuild.Dockerfile
