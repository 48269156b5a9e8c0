import ImageBuild.Text.Blank

/-!
# Words with quotes

Arguments are divided into words at blanks.  A backslash makes the next
character an ordinary one, and quotes of either kind make blanks ordinary; inside
single quotes the backslash is ordinary as well.  Quotes may be empty, and
pieces of all kinds stand next to each other in one word.
-/

namespace ImageBuild.Dockerfile

/-- Divide a text into words, inside a quote if one is open, with the word that
has been begun. -/
def wordsFrom (quote : Option Char) (word : Option (List Char)) :
    List Char → List (List Char)
  | [] => word.toList
  | c :: rest =>
      let begun := word.getD []
      match quote with
      | some q =>
          if c = q then wordsFrom none word rest
          else if c = '\\' ∧ q = '"' then
            match rest with
            | [] => wordsFrom quote (some begun) []
            | escaped :: rest => wordsFrom quote (some (begun ++ [escaped])) rest
          else wordsFrom quote (some (begun ++ [c])) rest
      | none =>
          if c = '\\' then
            match rest with
            | [] => wordsFrom none (some begun) []
            | escaped :: rest => wordsFrom none (some (begun ++ [escaped])) rest
          else if c = '"' ∨ c = '\x27' then wordsFrom (some c) (some begun) rest
          else if Text.isBlank c then word.toList ++ wordsFrom none none rest
          else wordsFrom none (some (begun ++ [c])) rest

/-- The words of a text. -/
def splitWords (text : List Char) : List (List Char) :=
  wordsFrom none none text

end ImageBuild.Dockerfile
