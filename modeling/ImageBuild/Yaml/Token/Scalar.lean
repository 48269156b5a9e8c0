import ImageBuild.Yaml.Token
import ImageBuild.Json.Reader

/-!
# Scalars

The content of plain, quoted and block scalars.  In plain and quoted scalars
a single line break between two lines of content becomes a space, and the
first of several is dropped; in folded block scalars the same holds between
lines that do not start with a blank, and literal ones keep their breaks.
-/

namespace ImageBuild.Yaml

open Json (hexValue?)

/-- The blanks and breaks between two pieces of content of a scalar on one or
more lines.  `broken` says that a line has ended, `first` and `more` are the
breaks, and `gap` the blanks on a line that has not ended. -/
structure Separation where
  broken : Bool
  gap : List Char
  first : List Char
  more : List Char

def Separation.none : Separation := ⟨false, [], [], []⟩

/-- What a separation adds to the content. -/
def Separation.folded (s : Separation) : List Char :=
  if s.broken then
    if s.first.head? = some '\n' then (if s.more.isEmpty then [' '] else s.more)
    else s.first ++ s.more
  else s.gap

/-- The separation behind a place: blanks count until a line ends, and the
ones that indent a line do not count.  A tab in front of `column` on a new
line is refused where `tabs` names what is being read. -/
def readSeparation (tabs : Option (Int × Mark)) :
    Nat → Separation → Cursor → Except Malformed (Separation × Cursor)
  | 0, s, c => .ok (s, c)
  | fuel + 1, s, c =>
      match c.peek with
      | none => .ok (s, c)
      | some x =>
          if isGap x then
            match tabs with
            | some (column, start) =>
                if s.broken && x == '\t' && decide ((c.mark.column : Int) < column) then
                  c.fail .tabInPlain .plainScalar start
                else
                  readSeparation tabs fuel (if s.broken then s else { s with gap := s.gap ++ [x] })
                    c.next
            | none =>
                readSeparation tabs fuel (if s.broken then s else { s with gap := s.gap ++ [x] })
                  c.next
          else if isBreak x then
            let (br, c) := c.nextLine
            if s.broken then readSeparation tabs fuel { s with more := s.more ++ br } c
            else readSeparation tabs fuel { s with broken := true, gap := [], first := br } c
          else .ok (s, c)

/-- The character in front ends a plain scalar. -/
def endsPlain (flow : Bool) (c : Cursor) : Bool :=
  (c.sees ':' && c.gapOrEndAt 1) ||
    (flow && butEnd (fun x => [',', '[', ']', '{', '}'].contains x) c.peek)

/-- The content of a plain scalar on one line, in reverse. -/
def readPlainLine (flow : Bool) (start : Mark) :
    Nat → List Char → Cursor → Except Malformed (List Char × Cursor)
  | 0, done, c => .ok (done, c)
  | fuel + 1, done, c =>
      match c.peek with
      | none => .ok (done, c)
      | some x =>
          if isGap x || isBreak x then .ok (done, c)
          else if flow && x == ':' &&
              butEnd (fun y => [',', '?', '[', ']', '{', '}'].contains y) (c.ahead 1) then
            c.fail .colonInPlain .plainScalar start
          else if endsPlain flow c then .ok (done, c)
          else readPlainLine flow start fuel (x :: done) c.next

/-- The content of a plain scalar in reverse, the place behind it, whether the
cursor is on a later line than the content, and the cursor. -/
structure PlainContent where
  reversed : List Char
  stop : Mark
  broken : Bool
  cursor : Cursor

/-- The lines of a plain scalar, at most `fuel` of them. -/
def readPlainLines (flow : Bool) (indent : Int) (start : Mark) :
    Nat → Separation → PlainContent → Except Malformed PlainContent
  | 0, _, p => .ok p
  | fuel + 1, between, p => do
      let c := p.cursor
      if c.seesMarker || c.sees '#' then return p
      let (line, c) ← readPlainLine flow start (c.rest.length + 1) [] c
      if line.isEmpty then return p
      let p : PlainContent :=
        { reversed := line ++ between.folded.reverse ++ p.reversed
          stop := c.mark, broken := false, cursor := c }
      let (between, c) ←
        readSeparation (some (indent, start)) (c.rest.length + 1) Separation.none c
      let p := { p with cursor := c, broken := between.broken }
      if !flow && decide ((c.mark.column : Int) < indent) then return p
      readPlainLines flow indent start fuel between p

/-- A plain scalar in a collection indented to `indent`, and whether the cursor
has left its last line. -/
def readPlain (flow : Bool) (indent : Int) (c : Cursor) :
    Except Malformed (Token × Bool × Cursor) := do
  let start := c.mark
  let p ← readPlainLines flow (indent + 1) start (c.rest.length + 1) Separation.none
    { reversed := [], stop := start, broken := false, cursor := c }
  .ok ({ kind := .scalar p.reversed.reverse .plain, start, stop := p.stop }, p.broken, p.cursor)

/-- What the letter of an escape without a code stands for. -/
def escapedChar? : Char → Option Char
  | '0' => some '\x00'
  | 'a' => some '\x07'
  | 'b' => some '\x08'
  | 't' => some '\t'
  | '\t' => some '\t'
  | 'n' => some '\n'
  | 'v' => some '\x0b'
  | 'f' => some '\x0c'
  | 'r' => some '\r'
  | 'e' => some '\x1b'
  | ' ' => some ' '
  | '"' => some '"'
  | '/' => some '/'
  | '\\' => some '\\'
  | 'N' => some '\x85'
  | '_' => some '\xa0'
  | 'L' => some '\u2028'
  | 'P' => some '\u2029'
  | _ => none

/-- The number of hexadecimal digits behind the letter of an escape. -/
def escapeLength? : Char → Option Nat
  | 'x' => some 2
  | 'u' => some 4
  | 'U' => some 8
  | _ => none

/-- The value of hexadecimal digits. -/
def hexNumber? (digits : List Char) : Option Nat :=
  digits.foldlM (fun n d => (hexValue? d).map (n * 16 + ·)) 0

/-- An escape in a double-quoted scalar. -/
def readQuotedEscape (start : Mark) (c : Cursor) : Except Malformed (Char × Cursor) :=
  match c.ahead 1 with
  | none => c.fail .escapeUnknown .quotedEscape start
  | some letter =>
      match escapedChar? letter, escapeLength? letter with
      | some x, _ => .ok (x, c.advance 2)
      | none, none => c.fail .escapeUnknown .quotedEscape start
      | none, some n =>
          let c := c.advance 2
          let digits := c.rest.take n
          if digits.length < n then c.fail .escapeNotHexadecimal .quotedEscape start
          else
            match hexNumber? digits with
            | none => c.fail .escapeNotHexadecimal .quotedEscape start
            | some code =>
                if (0xD800 ≤ code ∧ code ≤ 0xDFFF) ∨ 0x10FFFF < code then
                  c.fail .escapeNotCharacter .quotedEscape start
                else .ok (Char.ofNat code, c.advance n)

/-- The content of a quoted scalar up to a blank, a line break or the closing
quote, in reverse.  An escaped line break ends it as well, which the flag
tells. -/
def readQuotedPiece (single : Bool) (start : Mark) :
    Nat → List Char → Cursor → Except Malformed (List Char × Bool × Cursor)
  | 0, done, c => .ok (done, false, c)
  | fuel + 1, done, c =>
      let quote := if single then '\x27' else '"'
      match c.peek with
      | none => .ok (done, false, c)
      | some x =>
          if isGap x || isBreak x then .ok (done, false, c)
          else if single && x == quote && c.ahead 1 == some quote then
            readQuotedPiece single start fuel (quote :: done) (c.advance 2)
          else if x == quote then .ok (done, false, c)
          else if !single && x == '\\' && butEnd isBreak (c.ahead 1) then
            .ok (done, true, c.next.nextLine.2)
          else if !single && x == '\\' then do
            let (y, c) ← readQuotedEscape start c
            readQuotedPiece single start fuel (y :: done) c
          else readQuotedPiece single start fuel (x :: done) c.next

/-- The content of a quoted scalar in reverse, up to its closing quote. -/
def readQuotedPieces (single : Bool) (start : Mark) :
    Nat → List Char → Cursor → Except Malformed (List Char × Cursor)
  | 0, done, c => .ok (done, c)
  | fuel + 1, done, c => do
      if c.seesMarker then c.fail .markerInQuotes .quotedScalar start
      else if c.peek.isNone then c.fail .endInQuotes .quotedScalar start
      else
        let (done, escapedBreak, c) ← readQuotedPiece single start (c.rest.length + 1) done c
        if c.sees (if single then '\x27' else '"') then .ok (done, c)
        else
          let (between, c) ← readSeparation .none (c.rest.length + 1)
            { Separation.none with broken := escapedBreak } c
          readQuotedPieces single start fuel (between.folded.reverse ++ done) c

/-- A quoted scalar. -/
def readQuoted (single : Bool) (c : Cursor) : Except Malformed (Token × Cursor) := do
  let start := c.mark
  let (reversed, c) ← readQuotedPieces single start (c.rest.length + 1) [] c.next
  let c := c.next
  let style := if single then .singleQuoted else .doubleQuoted
  .ok ({ kind := .scalar reversed.reverse style, start, stop := c.mark }, c)

/-- What becomes of the line breaks at the end of a block scalar. -/
inductive Chomping where
  | strip
  | clip
  | keep
deriving DecidableEq

def chomping? : Char → Option Chomping
  | '+' => some .keep
  | '-' => some .strip
  | _ => none

/-- An indentation indicator: a digit other than zero. -/
def readIndentation (start : Mark) (c : Cursor) : Except Malformed (Option Nat × Cursor) :=
  match c.peek with
  | some '0' => c.fail .indentationZero .blockScalar start
  | some x => if '0' ≤ x ∧ x ≤ '9' then .ok (some (x.toNat - 48), c.next) else .ok (none, c)
  | none => .ok (none, c)

/-- The indicators behind `|` or `>`, in either order. -/
def readBlockHeader (start : Mark) (c : Cursor) :
    Except Malformed (Chomping × Option Nat × Cursor) := do
  match c.peek.bind chomping? with
  | some chomping =>
      let (indentation, c) ← readIndentation start c.next
      return (chomping, indentation, c)
  | none =>
      let (indentation, c) ← readIndentation start c
      match indentation, c.peek.bind chomping? with
      | some _, some chomping => return (chomping, indentation, c.next)
      | _, _ => return (.clip, indentation, c)

/-- The line breaks in front of a line of a block scalar, without the spaces
that indent it; `widest` is the furthest column reached.  Without a known
indentation all leading spaces are taken. -/
def readBlockBreaks (indent : Option Int) (start : Mark) :
    Nat → Nat → List Char → Mark → Cursor →
      Except Malformed (Nat × List Char × Mark × Cursor)
  | 0, widest, done, stop, c => .ok (widest, done, stop, c)
  | fuel + 1, widest, done, stop, c => do
      let spaces := (c.rest.takeWhile (· == ' ')).length
      let wanted :=
        match indent with
        | some n => min spaces (n - (c.mark.column : Int)).toNat
        | none => spaces
      let c := c.advance wanted
      let widest := max widest c.mark.column
      let inside := match indent with
        | some n => decide ((c.mark.column : Int) < n)
        | none => true
      if inside && c.sees '\t' then c.fail .indentationTab .blockScalar start
      else if c.seesBreak then
        let (br, c) := c.nextLine
        readBlockBreaks indent start fuel widest (done ++ br) c.mark c
      else .ok (widest, done, stop, c)

/-- The lines of a block scalar.  `pending` is the break behind the last line
and `breaks` are the ones of empty lines behind it. -/
structure BlockContent where
  reversed : List Char
  pending : List Char
  breaks : List Char
  afterBlank : Bool
  stop : Mark
  cursor : Cursor

/-- The lines of a block scalar, at most `fuel` of them. -/
def readBlockLines (literal : Bool) (indent : Int) (start : Mark) :
    Nat → BlockContent → Except Malformed BlockContent
  | 0, b => .ok b
  | fuel + 1, b => do
      let c := b.cursor
      if (c.mark.column : Int) ≠ indent ∨ c.peek.isNone then return b
      let blank := c.seesGap
      let joint :=
        if !literal && b.pending.head? == some '\n' && !b.afterBlank && !blank then
          if b.breaks.isEmpty then [' '] else []
        else b.pending
      let (line, c) := c.takeWhile (fun x => !isBreak x)
      let (pending, c) := c.nextLine
      let (_, breaks, stop, c) ←
        readBlockBreaks (some indent) start (c.rest.length + 1) 0 [] c.mark c
      readBlockLines literal indent start fuel
        { reversed := line.reverse ++ b.breaks.reverse ++ joint.reverse ++ b.reversed
          pending, breaks, afterBlank := blank, stop, cursor := c }

/-- A block scalar in a collection indented to `indent`. -/
def readBlock (literal : Bool) (indent : Int) (c : Cursor) :
    Except Malformed (Token × Cursor) := do
  let start := c.mark
  let (chomping, indentation, c) ← readBlockHeader start c.next
  let c := c.skipComment
  if !c.seesBreakOrEnd then c.fail .lineEndMissing .blockScalar start
  else
    let c := c.nextLine.2
    let known : Option Int := indentation.map fun n => if 0 ≤ indent then indent + n else n
    let (widest, breaks, stop, c) ←
      readBlockBreaks known start (c.rest.length + 1) 0 [] c.mark c
    let column : Int := known.getD (max (widest : Int) (max (indent + 1) 1))
    let b ← readBlockLines literal column start (c.rest.length + 1)
      { reversed := [], pending := [], breaks, afterBlank := false, stop, cursor := c }
    let tail :=
      match chomping with
      | .strip => []
      | .clip => b.pending
      | .keep => b.pending ++ b.breaks
    let style := if literal then .literal else .folded
    .ok ({ kind := .scalar (b.reversed.reverse ++ tail) style, start, stop := b.stop }, b.cursor)

end ImageBuild.Yaml
