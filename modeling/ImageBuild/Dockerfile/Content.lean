import ImageBuild.Dockerfile.Instruction
import ImageBuild.Dockerfile.Words
import ImageBuild.Labels

/-!
# What a Dockerfile says about its image

The labels that its instructions set, and the image that its last stage starts
from.
-/

namespace ImageBuild.Dockerfile

/-- The name and the value of a word with an equals sign, at which it is
divided. -/
def pairOfWord? (word : List Char) : Option (String × String) :=
  (Text.cutFirst '=' word).map fun (name, value) => (String.ofList name, String.ofList value)

/-- Words with a space between them. -/
def joinWords : List (List Char) → List Char
  | [] => []
  | [word] => word
  | word :: rest => word ++ ' ' :: joinWords rest

/-- The labels that arguments set, either as words with an equals sign or as a
name with all other words for its value. -/
def labelPairs (arguments : List Char) : List (String × String) :=
  match splitWords arguments with
  | [] => []
  | first :: rest =>
      if first.contains '=' then (first :: rest).filterMap pairOfWord?
      else [(String.ofList first, String.ofList (joinWords rest))]

/-- The labels that an instruction sets. -/
def Instruction.labelPairs (i : Instruction) : List (String × String) :=
  if i.keyword = ['L', 'A', 'B', 'E', 'L'] then Dockerfile.labelPairs i.arguments else []

/-- The image that an instruction starts a stage from: the first word that is no
option. -/
def Instruction.base? (i : Instruction) : Option String :=
  if i.keyword = ['F', 'R', 'O', 'M'] then
    ((Text.words i.arguments).find? fun word => !(['-', '-'].isPrefixOf word)).map String.ofList
  else none

/-- The labels of the image that a Dockerfile builds, later ones winning. -/
def labelsOf (content : String) : Labels :=
  OrderedMap.ofList ((instructions content.toList).flatMap Instruction.labelPairs)

/-- The image that the last stage of a Dockerfile starts from. -/
def baseImageOf? (content : String) : Option String :=
  ((instructions content.toList).filterMap Instruction.base?).getLast?

end ImageBuild.Dockerfile
