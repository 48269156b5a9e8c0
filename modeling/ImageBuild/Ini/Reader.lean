import ImageBuild.Ini.Fault
import ImageBuild.Text.Blank
import ImageBuild.Text.Word

/-!
# Reading INI text

An INI text is read as a list of entries in the order of the text: each has a
key, a value, and the section that it stands in, if there is one.  Sections and
keys may be repeated.  A comment takes a line of its own.  A backslash starts an
escape everywhere, and parts of a value may stand in quotes.
-/

namespace ImageBuild.Ini

/-- A key with its value, in a section or before the first one. -/
structure Entry where
  heading : Option String
  key : String
  value : String
deriving DecidableEq, Repr

/-- The hexadecimal digit that a character is. -/
def hexDigit? (c : Char) : Option Nat :=
  if Text.isAsciiDigit c then some (c.toNat - 48)
  else if 'a' ≤ c ∧ c ≤ 'f' then some (c.toNat - 87)
  else if 'A' ≤ c ∧ c ≤ 'F' then some (c.toNat - 55)
  else none

/-- The number that hexadecimal digits write. -/
def hexNumber? (digits : List Char) : Option Nat :=
  digits.foldlM (fun n c => (hexDigit? c).map fun d => n * 16 + d) 0

/-- The character of a code, which may have a plus sign. -/
def charOfCode? (code : List Char) : Option Char := do
  let n ← match code with
    | '+' :: digits => hexNumber? digits
    | digits => hexNumber? digits
  if n.isValidChar then some (Char.ofNat n) else none

/-- What an escape other than a code stands for; an escaped line break stands
for nothing. -/
def unescape (c : Char) : List Char :=
  if c = '0' then ['\x00']
  else if c = 'a' then ['\x07']
  else if c = 'b' then ['\x08']
  else if c = 't' then ['\t']
  else if c = 'r' then ['\r']
  else if c = 'n' then ['\n']
  else if c = '\n' then []
  else [c]

/-- Why a code of some characters cannot be read: `current` is what is left from
the last character looked at, and `text` all behind it. -/
def codeStop (ends : List (Option Char)) : Nat → List Char → List Char → Stop
  | 0, current, _ => ⟨.badCode, current⟩
  | _ + 1, _, [] => ⟨.ended ends, []⟩
  | n + 1, _, '\\' :: '\n' :: text => codeStop ends n ('\n' :: text) text
  | _ + 1, _, '\\' :: text => ⟨.unfinishedLine text.head?, text⟩
  | n + 1, _, c :: text => codeStop ends n (c :: text) text

/-- Put characters in front of what has been read. -/
def putBefore (cs : List Char) (r : Except Stop (List Char × List Char)) :
    Except Stop (List Char × List Char) :=
  r.map fun (read, rest) => (cs ++ read, rest)

/-- Read up to one of some characters, or to the end of the text if that is
among them. -/
def readUntil (ends : List (Option Char)) : List Char → Except Stop (List Char × List Char)
  | [] => if ends.contains none then .ok ([], []) else .error ⟨.ended ends, []⟩
  | ['\\'] => .error ⟨.ended ends, []⟩
  | '\\' :: 'x' :: a :: b :: c :: d :: rest =>
      match charOfCode? [a, b, c, d] with
      | some code => putBefore [code] (readUntil ends rest)
      | none => .error (codeStop ends 4 [] (a :: b :: c :: d :: rest))
  | '\\' :: 'x' :: rest => .error (codeStop ends 4 [] rest)
  | '\\' :: c :: rest => putBefore (unescape c) (readUntil ends rest)
  | c :: rest =>
      if ends.contains (some c) then .ok ([], c :: rest)
      else putBefore [c] (readUntil ends rest)

/-- A blank that does not break the line. -/
def isInlineBlank (c : Char) : Bool :=
  Text.isBlank c && c != '\n' && c != '\r'

/-- Read a value: quoted parts one behind the other, and then the rest of the
line.  The part behind quotes keeps the blanks in front of it. -/
def readValue : Nat → Bool → List Char → Except Stop (List Char × List Char)
  | 0, _, text => .ok ([], text)
  | fuel + 1, quoted, text =>
      match text with
      | [] => .ok ([], [])
      | c :: rest =>
          if c = '"' ∨ c = '\x27' then do
            let (part, rest) ← readUntil [some c] rest
            putBefore part (readValue fuel true rest.tail)
          else do
            let (part, rest) ← readUntil [some '\n', some '\r', none] (c :: rest)
            return (if quoted then Text.trimRight part else Text.trim part, rest)

/-- Skip blanks, up to blanks that start a line. -/
def skipToEntry : List Char → List Char
  | [] => []
  | c :: rest =>
      if c = '\n' ∨ c = '\r' then
        if rest.head? = some ' ' ∨ rest.head? = some '\t' then rest else skipToEntry rest
      else if Text.isBlank c then skipToEntry rest
      else c :: rest

/-- What is left behind the first line break. -/
def skipLine : List Char → List Char
  | [] => []
  | c :: rest => if c = '\n' then rest else skipLine rest

/-- Both characters that end a key. -/
def keyEnds : List (Option Char) := [some '=', some ':']

/-- Read the entries of what is left of a text, in a section and with a key that
still lacks its value.  A key that starts with blanks may also be left without
one at the end of the text. -/
def readEntries (text : List Char) :
    Nat → Option String → List Char → List Char → Except Stop (List Entry)
  | 0, _, _, _ => .ok []
  | fuel + 1, heading, key, rest =>
      match rest with
      | [] => .ok []
      | c :: behind =>
          if c = ';' ∨ c = '#' then
            if 1 < (placeOf text rest).2 then .error ⟨.commentBehindText, rest⟩
            else readEntries text fuel heading key (skipToEntry (skipLine rest))
          else if c = '[' then do
            let (name, rest) ← readUntil [some ']'] behind
            let name := String.ofList (Text.trim name)
            readEntries text fuel (some name) key (skipToEntry rest.tail)
          else if c = '=' ∨ c = ':' then
            if key.isEmpty then .error ⟨.keyMissing, rest⟩
            else do
              let start := behind.dropWhile isInlineBlank
              let (value, rest) ← readValue (start.length + 1) false start
              let entry : Entry := ⟨heading, String.ofList key, String.ofList value⟩
              let entries ← readEntries text fuel heading [] (skipToEntry rest)
              return entry :: entries
          else if c = ' ' ∨ c = '\t' then
            match readUntil keyEnds (rest.dropWhile fun c => c = ' ' ∨ c = '\t') with
            | .ok (key, rest) =>
                readEntries text fuel heading (Text.trim key) (skipToEntry rest)
            | .error stop =>
                readEntries text fuel heading key (skipToEntry (Text.trimLeft stop.rest))
          else do
            let (key, rest) ← readUntil keyEnds rest
            readEntries text fuel heading (Text.trim key) (skipToEntry rest)

/-- The entries of a text. -/
def read (text : List Char) : Except Fault (List Entry) :=
  (readEntries text (text.length + 1) none [] (Text.trimLeft text)).mapError (Stop.toFault text)

/-- The text of a file without the mark of its byte order. -/
def withoutMark : List Char → List Char
  | '\uFEFF' :: text => text
  | text => text

end ImageBuild.Ini
