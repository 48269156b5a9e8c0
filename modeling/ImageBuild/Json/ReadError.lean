/-!
# Faults in JSON text

What can be wrong with a JSON text, and where.  A place is given by its line
and by the number of bytes that lie before it on that line.
-/

namespace ImageBuild.Json

/-- What is wrong at a place of a JSON text. -/
inductive ReadFault where
  | endInArray
  | endInObject
  | endInString
  | endInValue
  | expectedColon
  | expectedArrayEnd
  | expectedObjectEnd
  | expectedWord
  | expectedValue
  | invalidEscape
  | invalidNumber
  | numberOutOfRange
  | controlCharacter
  | nameNotString
  | loneSurrogate
  | trailingComma
  | trailingText
  | unfinishedSurrogate
  | tooDeep
deriving DecidableEq, Repr

/-- The wording of a fault. -/
def ReadFault.message : ReadFault → String
  | endInArray => "EOF while parsing a list"
  | endInObject => "EOF while parsing an object"
  | endInString => "EOF while parsing a string"
  | endInValue => "EOF while parsing a value"
  | expectedColon => "expected `:`"
  | expectedArrayEnd => "expected `,` or `]`"
  | expectedObjectEnd => "expected `,` or `\x7d`"
  | expectedWord => "expected ident"
  | expectedValue => "expected value"
  | invalidEscape => "invalid escape"
  | invalidNumber => "invalid number"
  | numberOutOfRange => "number out of range"
  | controlCharacter => "control character (\\u0000-\\u001F) found while parsing a string"
  | nameNotString => "key must be a string"
  | loneSurrogate => "lone leading surrogate in hex escape"
  | trailingComma => "trailing comma"
  | trailingText => "trailing characters"
  | unfinishedSurrogate => "unexpected end of hex escape"
  | tooDeep => "recursion limit exceeded"

/-- A fault with its place. -/
structure ReadError where
  fault : ReadFault
  line : Nat
  column : Nat
deriving DecidableEq, Repr

/-- The text of a fault with its place. -/
def ReadError.message (e : ReadError) : String :=
  s!"{e.fault.message} at line {e.line} column {e.column}"

/-- The line of a byte offset and the bytes between the start of that line and
the offset.  An offset may fall inside a character. -/
def placeOfOffset (text : List Char) (offset : Nat) : Nat × Nat :=
  go text offset 1 0
where
  go : List Char → Nat → Nat → Nat → Nat × Nat
    | [], _, line, column => (line, column)
    | c :: rest, left, line, column =>
        if left = 0 then (line, column)
        else if c = '\n' then go rest (left - 1) (line + 1) 0
        else go rest (left - c.utf8Size) line (column + min left c.utf8Size)

/-- The bytes that a text takes. -/
def byteLength (text : List Char) : Nat :=
  text.foldl (fun n c => n + c.utf8Size) 0

end ImageBuild.Json
