/-!
# Blank characters, trimming and lines

Text is handled as lists of characters.  A character is blank when Unicode
gives it the property White_Space; trimming removes blanks at the two ends of a
text, and the lines of a text are the pieces between its line feeds.
-/

namespace ImageBuild.Text

/-- The characters with the Unicode property White_Space. -/
def isBlank (c : Char) : Bool :=
  let n := c.toNat
  (9 ≤ n && n ≤ 13) || n == 0x20 || n == 0x85 || n == 0xA0 || n == 0x1680 ||
    (0x2000 ≤ n && n ≤ 0x200A) || n == 0x2028 || n == 0x2029 || n == 0x202F ||
    n == 0x205F || n == 0x3000

/-- Drop the blanks in front of a text. -/
def trimLeft (s : List Char) : List Char :=
  s.dropWhile isBlank

/-- Drop the blanks at the end of a text. -/
def trimRight (s : List Char) : List Char :=
  (s.reverse.dropWhile isBlank).reverse

/-- Drop the blanks at both ends of a text. -/
def trim (s : List Char) : List Char :=
  trimRight (trimLeft s)

/-- The pieces of a text between its line feeds; a line feed at the very end
opens no further line.  A carriage return in front of a line feed stays with
its line, where trimming removes it. -/
def lines : List Char → List (List Char)
  | [] => []
  | c :: rest =>
      if c = '\n' then [] :: lines rest
      else match lines rest with
        | [] => [[c]]
        | line :: more => (c :: line) :: more

/-- The pieces of a text between the occurrences of a separator; there is
always at least one. -/
def splitOn (separator : Char) : List Char → List (List Char)
  | [] => [[]]
  | c :: rest =>
      if c = separator then [] :: splitOn separator rest
      else match splitOn separator rest with
        | [] => [[c]]
        | piece :: more => (c :: piece) :: more

/-- Cut a text at the first occurrence of a separator, which belongs to
neither part. -/
def cutFirst (separator : Char) : List Char → Option (List Char × List Char)
  | [] => none
  | c :: rest =>
      if c = separator then some ([], rest)
      else (cutFirst separator rest).map fun (before, after) => (c :: before, after)

/-- Cut a text at the last occurrence of a separator, which belongs to
neither part. -/
def cutLast (separator : Char) : List Char → Option (List Char × List Char)
  | [] => none
  | c :: rest =>
      match cutLast separator rest with
      | some (before, after) => some (c :: before, after)
      | none => if c = separator then some ([], rest) else none

/-- The words of a text: its longest pieces without blanks. -/
def words (s : List Char) : List (List Char) :=
  go s []
where
  go : List Char → List Char → List (List Char)
    | [], word => if word.isEmpty then [] else [word.reverse]
    | c :: rest, word =>
        if isBlank c then
          if word.isEmpty then go rest [] else word.reverse :: go rest []
        else go rest (c :: word)

/-- Lower the ASCII capitals of a character and leave all others alone. -/
def lowerAscii (c : Char) : Char :=
  if 'A' ≤ c ∧ c ≤ 'Z' then Char.ofNat (c.toNat + 32) else c

/-- Raise the ASCII small letters of a character and leave all others alone. -/
def upperAscii (c : Char) : Char :=
  if 'a' ≤ c ∧ c ≤ 'z' then Char.ofNat (c.toNat - 32) else c

end ImageBuild.Text
