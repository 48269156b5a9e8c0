import ImageBuild.Yaml.Token
import ImageBuild.Json.Reader

/-!
# Anchors, tags and directives

The tokens that begin with `&`, `*`, `!` and `%`.  A tag is a handle with a
rest, or stands between angle brackets as it is; octets of a tag may be written
as `%` with two hexadecimal digits.
-/

namespace ImageBuild.Yaml

open Json (hexValue?)

/-- The value of the octet that `%` and two hexadecimal digits write. -/
def writtenOctet? : List Char → Option Nat
  | '%' :: a :: b :: _ => do return (← hexValue? a) * 16 + (← hexValue? b)
  | _ => none

/-- The number of octets of the UTF-8 sequence that an octet leads. -/
def sequenceWidth? (octet : Nat) : Option Nat :=
  if octet < 0x80 then some 1
  else if 0xC0 ≤ octet ∧ octet < 0xE0 then some 2
  else if 0xE0 ≤ octet ∧ octet < 0xF0 then some 3
  else if 0xF0 ≤ octet ∧ octet < 0xF8 then some 4
  else none

/-- The octets that continue a UTF-8 sequence. -/
def readTrailingOctets (activity : Activity) (began : Mark) :
    Nat → List Nat → Cursor → Except Malformed (List Nat × Cursor)
  | 0, done, c => .ok (done.reverse, c)
  | n + 1, done, c =>
      match writtenOctet? c.rest with
      | none => c.fail .octetMissing activity began
      | some octet =>
          if octet / 64 = 2 then
            readTrailingOctets activity began n (octet :: done) (c.advance 3)
          else c.fail .trailingOctetWrong activity began

/-- The character whose UTF-8 sequence is written with `%`. -/
def readWrittenChar (activity : Activity) (began : Mark) (c : Cursor) :
    Except Malformed (List Char × Cursor) :=
  match writtenOctet? c.rest with
  | none => c.fail .octetMissing activity began
  | some octet =>
      match sequenceWidth? octet with
      | none => c.fail .leadingOctetWrong activity began
      | some width => do
          let (more, c) ← readTrailingOctets activity began (width - 1) [] (c.advance 3)
          let bytes := (octet :: more).map (·.toUInt8)
          match String.fromUTF8? ⟨bytes.toArray⟩ with
          | some s => .ok (s.toList, c)
          | none => .ok (['\ufffd'], c)

/-- The characters that a tag may hold; the flow indicators only between angle
brackets and in directives. -/
def isTagChar (verbatim : Bool) (c : Char) : Bool :=
  isNameChar c ||
    [';', '/', '?', ':', '@', '&', '=', '+', '$', '.', '%', '!', '~', '*', '\x27', '(', ')'].contains
      c ||
    (verbatim && [',', '[', ']'].contains c)

/-- The characters of a tag, at most `fuel` of them. -/
def readTagChars (verbatim : Bool) (activity : Activity) (began : Mark) :
    Nat → List Char → Cursor → Except Malformed (List Char × Cursor)
  | 0, done, c => .ok (done, c)
  | fuel + 1, done, c =>
      match c.peek with
      | none => .ok (done, c)
      | some x =>
          if x = '%' then do
            let (decoded, c) ← readWrittenChar activity began c
            readTagChars verbatim activity began fuel (done ++ decoded) c
          else if isTagChar verbatim x then
            readTagChars verbatim activity began fuel (done ++ [x]) c.next
          else .ok (done, c)

/-- The rest of a tag behind what was taken for its handle; the two together
may not be empty. -/
def readTagRest (verbatim directive : Bool) (taken : List Char) (began : Mark) (c : Cursor) :
    Except Malformed (List Char × Cursor) := do
  let activity := if directive then .tagDirectiveValue else .tagValue
  let (rest, c) ← readTagChars verbatim activity began (c.rest.length + 1) (taken.drop 1) c
  if rest.isEmpty && taken.isEmpty then c.fail .tagMissing activity began
  else .ok (rest, c)

/-- A handle: an exclamation mark, and name characters that a second one may
close.  A directive needs a closed handle. -/
def readHandle (directive : Bool) (began : Mark) (c : Cursor) :
    Except Malformed (List Char × Cursor) :=
  if c.sees '!' then
    let (name, c) := c.next.takeWhile isNameChar
    if c.sees '!' then .ok ('!' :: name ++ ['!'], c.next)
    else if directive && !name.isEmpty then
      c.fail .handleStartMissing .tagDirectiveHandleEnd began
    else .ok ('!' :: name, c)
  else c.fail .handleStartMissing (if directive then .tagDirectiveHandle else .tag) began

/-- A handle is closed when it has a second exclamation mark. -/
def isClosedHandle (handle : List Char) : Bool :=
  2 ≤ handle.length && handle.getLast? == some '!'

/-- A tag. -/
def readTag (flow : Bool) (c : Cursor) : Except Malformed (Token × Cursor) := do
  let start := c.mark
  let (handle, rest, c) ←
    if c.ahead 1 == some '<' then do
      let (rest, c) ← readTagRest true false [] start (c.advance 2)
      if c.sees '>' then pure ([], rest, c.next)
      else c.fail .verbatimEndMissing .tag start
    else do
      let (handle, c) ← readHandle false start c
      if isClosedHandle handle then do
        let (rest, c) ← readTagRest false false [] start c
        pure (handle, rest, c)
      else do
        let (rest, c) ← readTagRest false false handle start c
        pure (if rest.isEmpty then ([], ['!'], c) else (['!'], rest, c))
  if c.seesGapOrEnd || (flow && c.sees ',') then
    .ok ({ kind := .tag handle rest, start, stop := c.mark }, c)
  else c.fail .blankOrLineEndMissing .tag start

/-- The characters that may stand behind the name of an anchor. -/
def endsAnchor (c : Cursor) : Bool :=
  c.seesGapOrEnd ||
    butEnd (fun x => ['?', ':', ',', ']', '}', '%', '@', '\x60'].contains x) c.peek

/-- An anchor or an alias. -/
def readAnchor (isAlias : Bool) (c : Cursor) : Except Malformed (Token × Cursor) :=
  let start := c.mark
  let (name, c) := c.next.takeWhile isNameChar
  if name.isEmpty || !endsAnchor c then
    c.fail .anchorMissing (if isAlias then .reference else .anchor) start
  else
    .ok ({ kind := if isAlias then .reference name else .anchor name, start, stop := c.mark }, c)

/-- A number of a version, of at most nine digits. -/
def readVersionNumber (start : Mark) (c : Cursor) : Except Malformed (Nat × Cursor) :=
  let isDigit (x : Char) : Bool := '0' ≤ x && x ≤ '9'
  let digits := c.rest.takeWhile isDigit
  if 9 < digits.length then (c.advance 9).fail .versionTooLong .versionDirective start
  else if digits.isEmpty then c.fail .versionMissing .versionDirective start
  else
    .ok (digits.foldl (fun n d => n * 10 + (d.toNat - 48)) 0, c.advance digits.length)

/-- What a directive says, by its name. -/
def readDirectiveValue (name : List Char) (start : Mark) (c : Cursor) :
    Except Malformed (TokenKind × Cursor) := do
  if name = ['Y', 'A', 'M', 'L'] then
    let (major, c) ← readVersionNumber start (c.skipWhile isGap)
    if c.sees '.' then
      let (minor, c) ← readVersionNumber start c.next
      .ok (.versionDirective major minor, c)
    else c.fail .versionSeparatorMissing .versionDirective start
  else if name = ['T', 'A', 'G'] then
    let (handle, c) ← readHandle true start (c.skipWhile isGap)
    if c.seesGap then
      let (expansion, c) ← readTagRest true true [] start (c.skipWhile isGap)
      if c.seesGapOrEnd then .ok (.tagDirective handle expansion, c)
      else c.fail .blankOrLineEndMissing .tagDirective start
    else c.fail .blankMissing .tagDirective start
  else c.fail .directiveUnknown .directive start

/-- A directive with the rest of its line. -/
def readDirective (c : Cursor) : Except Malformed (Token × Cursor) := do
  let start := c.mark
  let (name, c) := c.next.takeWhile isNameChar
  if name.isEmpty then c.fail .directiveUnnamed .directive start
  else if !c.seesGapOrEnd then c.fail .directiveNotAlphabetic .directive start
  else
    let (kind, c) ← readDirectiveValue name start c
    let stop := c.mark
    let c := c.skipComment
    if c.seesBreakOrEnd then .ok ({ kind, start, stop }, c.nextLine.2)
    else c.fail .lineEndMissing .directive start

end ImageBuild.Yaml
