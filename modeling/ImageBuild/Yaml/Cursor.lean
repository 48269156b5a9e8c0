import ImageBuild.Yaml.Fault

/-!
# A place in YAML text

The text that is left to read together with the mark of the place, and the
classes of characters that the format distinguishes.  A cursor moves by one
character within a line and by one line break, which may be a pair, between
lines.
-/

namespace ImageBuild.Yaml

/-- The text that is left, and the mark of its first character. -/
structure Cursor where
  rest : List Char
  mark : Mark

/-- The characters that break a line. -/
def isBreak (c : Char) : Bool :=
  c == '\n' || c == '\r' || c == '\x85' || c == '\u2028' || c == '\u2029'

/-- The blanks within a line. -/
def isGap (c : Char) : Bool :=
  c == ' ' || c == '\t'

/-- The characters of names: ASCII letters, digits, underscore and dash. -/
def isNameChar (c : Char) : Bool :=
  ('a' ≤ c && c ≤ 'z') || ('A' ≤ c && c ≤ 'Z') || ('0' ≤ c && c ≤ '9') || c == '_' || c == '-'

/-- The characters that a document may hold. -/
def isAllowed (c : Char) : Bool :=
  let n := c.toNat
  n == 0x09 || n == 0x0A || n == 0x0D || (0x20 ≤ n && n ≤ 0x7E) || n == 0x85 ||
    (0xA0 ≤ n && n ≤ 0xD7FF) || (0xE000 ≤ n && n ≤ 0xFFFD) || 0x10000 ≤ n

/-- A property of a character, or the end of the text. -/
def orEnd (p : Char → Bool) : Option Char → Bool
  | some c => p c
  | none => true

/-- A property of a character that the end of the text does not have. -/
def butEnd (p : Char → Bool) : Option Char → Bool
  | some c => p c
  | none => false

namespace Cursor

/-- The character in front, `none` at the end of the text. -/
def peek (c : Cursor) : Option Char :=
  c.rest.head?

/-- The character some places ahead. -/
def ahead (c : Cursor) (n : Nat) : Option Char :=
  c.rest[n]?

/-- The character in front is a given one. -/
def sees (c : Cursor) (x : Char) : Bool :=
  c.rest.head? == some x

/-- The character in front is a blank, a line break or the end. -/
def seesGapOrEnd (c : Cursor) : Bool :=
  orEnd (fun x => isGap x || isBreak x) c.peek

/-- The character some places ahead is a blank, a line break or the end. -/
def gapOrEndAt (c : Cursor) (n : Nat) : Bool :=
  orEnd (fun x => isGap x || isBreak x) (c.ahead n)

/-- The character in front is a line break or the end. -/
def seesBreakOrEnd (c : Cursor) : Bool :=
  orEnd isBreak c.peek

def seesBreak (c : Cursor) : Bool :=
  butEnd isBreak c.peek

def seesGap (c : Cursor) : Bool :=
  butEnd isGap c.peek

/-- The next character on the line. -/
def next (c : Cursor) : Cursor :=
  { rest := c.rest.tail
    mark := { c.mark with index := c.mark.index + 1, column := c.mark.column + 1 } }

/-- Some characters further on the line. -/
def advance (c : Cursor) (n : Nat) : Cursor :=
  { rest := c.rest.drop n
    mark := { c.mark with index := c.mark.index + n, column := c.mark.column + n } }

/-- The start of the next line behind a line break, and the break as it counts
in the content of a scalar. -/
def nextLine (c : Cursor) : List Char × Cursor :=
  let behind (n : Nat) : Cursor :=
    { rest := c.rest.drop n
      mark := { index := c.mark.index + n, line := c.mark.line + 1, column := 0 } }
  match c.rest with
  | '\r' :: '\n' :: _ => (['\n'], behind 2)
  | x :: _ =>
      if x = '\u2028' ∨ x = '\u2029' then ([x], behind 1)
      else if isBreak x then (['\n'], behind 1)
      else ([], c)
  | [] => ([], c)

/-- The characters in front that have a property, and the place behind them.
No line break may have the property. -/
def takeWhile (p : Char → Bool) (c : Cursor) : List Char × Cursor :=
  let taken := c.rest.takeWhile p
  (taken, c.advance taken.length)

/-- The place behind the characters in front that have a property. -/
def skipWhile (p : Char → Bool) (c : Cursor) : Cursor :=
  (c.takeWhile p).2

/-- The place behind the blanks in front and a comment behind them. -/
def skipComment (c : Cursor) : Cursor :=
  let c := c.skipWhile isGap
  if c.sees '#' then c.skipWhile (fun x => !isBreak x) else c

/-- A document marker, three dashes or three points, stands at the start of
the line. -/
def seesMarker (c : Cursor) : Bool :=
  c.mark.column == 0 && c.gapOrEndAt 3 &&
    (c.rest.take 3 == ['-', '-', '-'] || c.rest.take 3 == ['.', '.', '.'])

/-- A problem at a place. -/
def fail (c : Cursor) (problem : Problem) (activity : Activity) (began : Mark) :
    Except Malformed α :=
  .error { problem, mark := c.mark, activity := some (activity, began) }

end Cursor

end ImageBuild.Yaml
