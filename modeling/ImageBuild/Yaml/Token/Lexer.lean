import ImageBuild.Yaml.Token.Property
import ImageBuild.Yaml.Token.Scalar

/-!
# From text to tokens

A key needs no indicator of its own: a node turns out to be one when a colon
follows it on the same line within 1024 characters.  The lexer therefore keeps,
for each flow level, the place where such a key may have begun, and puts the
key token there once the colon is found.  A token is given out only when no key
can be put in front of it any more, so that a fault further on counts as soon
as the text up to it had to be looked at.
-/

namespace ImageBuild.Yaml

/-- A place at which a key without indicator may have begun: the number of the
token that would follow the key token, and whether the line has to be one. -/
structure OpenKey where
  token : Nat
  mark : Mark
  required : Bool

/-- How far a text has been cut into tokens.  `waiting` holds the tokens that
have not been given out, of which `given` came before; `indents` and `keys`
are stacks with the innermost entry first. -/
structure Lexer where
  cursor : Cursor
  indent : Int
  indents : List Int
  keyAllowed : Bool
  keys : List (Option OpenKey)
  waiting : List Token
  given : Nat
  started : Bool
  ended : Bool

namespace Lexer

/-- The lexer at the start of a text. -/
def ofText (text : List Char) : Lexer :=
  { cursor := ⟨text, Mark.start⟩, indent := -1, indents := [], keyAllowed := true
    keys := [none], waiting := [], given := 0, started := false, ended := false }

/-- Inside brackets or braces. -/
def inFlow (l : Lexer) : Bool :=
  1 < l.keys.length

/-- A further token at the end of the waiting ones. -/
def push (l : Lexer) (t : Token) : Lexer :=
  { l with waiting := l.waiting ++ [t] }

/-- A token without extent at a place. -/
def pushMark (l : Lexer) (kind : TokenKind) (mark : Mark) : Lexer :=
  l.push { kind, start := mark, stop := mark }

/-- A token in front of the one of a number. -/
def insertAt (l : Lexer) (number : Nat) (t : Token) : Lexer :=
  let i := number - l.given
  { l with waiting := l.waiting.take i ++ t :: l.waiting.drop i }

/-- The key that is still missing its colon. -/
def colonMissing (l : Lexer) (key : OpenKey) : Except Malformed α :=
  l.cursor.fail .colonMissing .simpleKey key.mark

/-- Close the open keys that lie on an earlier line or too far back. -/
def dropStaleKeys (l : Lexer) : Except Malformed Lexer := do
  let mark := l.cursor.mark
  let stale (key : OpenKey) : Bool :=
    key.mark.line < mark.line || key.mark.index + 1024 < mark.index
  let outermostFirst := l.keys.reverse.filterMap id
  match outermostFirst.find? fun key => stale key && key.required with
  | some key => l.colonMissing key
  | none => .ok { l with keys := l.keys.map fun key => key.filter fun key => !stale key }

/-- Close the open key of the innermost flow level. -/
def closeKey (l : Lexer) : Except Malformed Lexer :=
  match l.keys with
  | some key :: rest =>
      if key.required then l.colonMissing key else .ok { l with keys := none :: rest }
  | _ => .ok l

/-- Open a key at the cursor, where one is allowed. -/
def openKey (l : Lexer) : Except Malformed Lexer := do
  if !l.keyAllowed then return l
  let required := !l.inFlow && l.indent == (l.cursor.mark.column : Int)
  let key : OpenKey := { token := l.given + l.waiting.length, mark := l.cursor.mark, required }
  let l ← l.closeKey
  return { l with keys := some key :: l.keys.tail }

/-- Open a block collection if a column lies deeper than the current one. -/
def openBlock (l : Lexer) (column : Nat) (number : Option Nat) (kind : TokenKind)
    (mark : Mark) : Lexer :=
  if l.inFlow || decide ((column : Int) ≤ l.indent) then l
  else
    let l := { l with indents := l.indent :: l.indents, indent := column }
    match number with
    | none => l.pushMark kind mark
    | some n => l.insertAt n { kind, start := mark, stop := mark }

/-- Close the block collections that are indented deeper than a column. -/
def closeBlocks (l : Lexer) (column : Int) : Lexer :=
  if l.inFlow then l else go l.indents l
where
  go : List Int → Lexer → Lexer
    | [], l => l
    | outer :: rest, l =>
        if column < l.indent then
          go rest { l.pushMark .blockEnd l.cursor.mark with indent := outer, indents := rest }
        else l

/-- Move to the start of the next token, past blanks, comments and line breaks.
Outside of flow collections a new line may begin with a key, and a tab may not
indent it. -/
def skipToToken (l : Lexer) : Lexer :=
  go (l.cursor.rest.length + 1) l
where
  go : Nat → Lexer → Lexer
    | 0, l => l
    | fuel + 1, l =>
        let c := l.cursor
        let c := if c.mark.index == 0 && c.sees '\ufeff' then c.next else c
        let tabs := l.inFlow || !l.keyAllowed
        let c := c.skipWhile fun x => x == ' ' || (tabs && x == '\t')
        let c := if c.sees '#' then c.skipWhile (fun x => !isBreak x) else c
        if c.seesBreak then
          go fuel { l with cursor := c.nextLine.2, keyAllowed := l.keyAllowed || !l.inFlow }
        else { l with cursor := c }

/-- An indicator of some characters. -/
def pushIndicator (l : Lexer) (kind : TokenKind) (width : Nat) : Lexer :=
  let stop := l.cursor.advance width
  { l.push { kind, start := l.cursor.mark, stop := stop.mark } with cursor := stop }

/-- The end of the text, which counts as the start of a line. -/
def endText (l : Lexer) : Except Malformed Lexer := do
  let mark := l.cursor.mark
  let mark := if mark.column = 0 then mark else { mark with column := 0, line := mark.line + 1 }
  let l := { l with cursor := { l.cursor with mark } }
  let l ← (l.closeBlocks (-1)).closeKey
  return { l.pushMark .streamEnd mark with keyAllowed := false, ended := true }

/-- A directive. -/
def directive (l : Lexer) : Except Malformed Lexer := do
  let l ← (l.closeBlocks (-1)).closeKey
  let (t, c) ← readDirective l.cursor
  return { l.push t with cursor := c, keyAllowed := false }

/-- A document marker. -/
def documentMarker (l : Lexer) (kind : TokenKind) : Except Malformed Lexer := do
  let l ← (l.closeBlocks (-1)).closeKey
  return { l with keyAllowed := false }.pushIndicator kind 3

/-- The start of a flow collection. -/
def flowStart (l : Lexer) (kind : TokenKind) : Except Malformed Lexer := do
  let l ← l.openKey
  return { l with keys := none :: l.keys, keyAllowed := true }.pushIndicator kind 1

/-- The end of a flow collection. -/
def flowEnd (l : Lexer) (kind : TokenKind) : Except Malformed Lexer := do
  let l ← l.closeKey
  let keys := if l.inFlow then l.keys.tail else l.keys
  return { l with keys, keyAllowed := false }.pushIndicator kind 1

/-- The comma between entries of a flow collection. -/
def flowEntry (l : Lexer) : Except Malformed Lexer := do
  let l ← l.closeKey
  return { l with keyAllowed := true }.pushIndicator .flowEntry 1

/-- The dash of a sequence entry. -/
def blockEntry (l : Lexer) : Except Malformed Lexer := do
  let mark := l.cursor.mark
  if !l.inFlow && !l.keyAllowed then
    throw { problem := .entryMisplaced, mark, activity := none }
  let l ← (l.openBlock mark.column none .blockSequenceStart mark).closeKey
  return { l with keyAllowed := true }.pushIndicator .blockEntry 1

/-- The question mark of a key. -/
def keyIndicator (l : Lexer) : Except Malformed Lexer := do
  let mark := l.cursor.mark
  if !l.inFlow && !l.keyAllowed then
    throw { problem := .keyMisplaced, mark, activity := none }
  let l ← (l.openBlock mark.column none .blockMappingStart mark).closeKey
  return { l with keyAllowed := !l.inFlow }.pushIndicator .key 1

/-- The colon of a value; an open key is its key. -/
def valueIndicator (l : Lexer) : Except Malformed Lexer := do
  let mark := l.cursor.mark
  match l.keys with
  | some key :: rest =>
      let l := l.insertAt key.token { kind := .key, start := key.mark, stop := key.mark }
      let l := l.openBlock key.mark.column (some key.token) .blockMappingStart key.mark
      return { l with keys := none :: rest, keyAllowed := false }.pushIndicator .value 1
  | _ =>
      if !l.inFlow && !l.keyAllowed then
        throw { problem := .valueMisplaced, mark, activity := none }
      let l := l.openBlock mark.column none .blockMappingStart mark
      return { l with keyAllowed := !l.inFlow }.pushIndicator .value 1

/-- A node property or a scalar, which may be a key. -/
def keyLike (l : Lexer) (read : Lexer → Except Malformed (Token × Cursor)) :
    Except Malformed Lexer := do
  let l ← l.openKey
  let (t, c) ← read l
  return { l.push t with cursor := c, keyAllowed := false }

/-- A plain scalar.  Behind one that ends with its line a key may begin. -/
def plain (l : Lexer) : Except Malformed Lexer := do
  let l ← l.openKey
  let (t, broken, c) ← readPlain l.inFlow l.indent l.cursor
  return { l.push t with cursor := c, keyAllowed := broken }

/-- A block scalar, which is no key. -/
def blockScalar (l : Lexer) (literal : Bool) : Except Malformed Lexer := do
  let l ← l.closeKey
  let (t, c) ← readBlock literal l.indent l.cursor
  return { l.push t with cursor := c, keyAllowed := true }

/-- The characters that begin no plain scalar unless something follows them. -/
def isIndicator (c : Char) : Bool :=
  ['-', '?', ':', ',', '[', ']', '{', '}', '#', '&', '*', '!', '|', '>', '\x27', '"', '%', '@',
    '\x60'].contains c

/-- The character in front begins a plain scalar. -/
def startsPlain (l : Lexer) (x : Char) : Bool :=
  !(isIndicator x || isGap x || isBreak x) ||
    (x == '-' && !(butEnd isGap (l.cursor.ahead 1))) ||
    (!l.inFlow && (x == '?' || x == ':') && !l.cursor.gapOrEndAt 1)

/-- The token that begins with a character. -/
def tokenAt (l : Lexer) (x : Char) : Except Malformed Lexer :=
  let c := l.cursor
  let flow := l.inFlow
  if c.mark.column == 0 && x == '%' then l.directive
  else if c.seesMarker then l.documentMarker (if x == '-' then .documentStart else .documentEnd)
  else if x == '[' then l.flowStart .flowSequenceStart
  else if x == '{' then l.flowStart .flowMappingStart
  else if x == ']' then l.flowEnd .flowSequenceEnd
  else if x == '}' then l.flowEnd .flowMappingEnd
  else if x == ',' then l.flowEntry
  else if x == '-' && c.gapOrEndAt 1 then l.blockEntry
  else if x == '?' && (flow || c.gapOrEndAt 1) then l.keyIndicator
  else if x == ':' && (flow || c.gapOrEndAt 1) then l.valueIndicator
  else if x == '*' then l.keyLike fun l => readAnchor true l.cursor
  else if x == '&' then l.keyLike fun l => readAnchor false l.cursor
  else if x == '!' then l.keyLike fun l => readTag l.inFlow l.cursor
  else if x == '|' && !flow then l.blockScalar true
  else if x == '>' && !flow then l.blockScalar false
  else if x == '\x27' then l.keyLike fun l => readQuoted true l.cursor
  else if x == '"' then l.keyLike fun l => readQuoted false l.cursor
  else if l.startsPlain x then l.plain
  else c.fail .noTokenStart .nextToken c.mark

/-- Cut off the next token, with those that its indentation implies. -/
def advance (l : Lexer) : Except Malformed Lexer := do
  if !l.started then
    return { l.pushMark .streamStart l.cursor.mark with started := true }
  let l ← l.skipToToken.dropStaleKeys
  let l := l.closeBlocks l.cursor.mark.column
  match l.cursor.peek with
  | none => l.endText
  | some x => l.tokenAt x

/-- A key may still be put in front of the first waiting token. -/
def headOpen (l : Lexer) : Bool :=
  l.keys.any fun key => match key with
    | some key => key.token == l.given
    | none => false

/-- The tokens of a text in the order in which they are given out, and the
problem that ends them early. -/
def run : Nat → List Token → Lexer → List Token × Option Malformed
  | 0, done, _ => (done.reverse, none)
  | fuel + 1, done, l =>
      match l.waiting with
      | [] =>
          if l.ended then (done.reverse, none)
          else
            match l.advance with
            | .ok l => run fuel done l
            | .error m => (done.reverse, some m)
      | t :: waiting =>
          match l.dropStaleKeys with
          | .error m => (done.reverse, some m)
          | .ok l =>
              if l.headOpen then
                match l.advance with
                | .ok l => run fuel done l
                | .error m => (done.reverse, some m)
              else run fuel (t :: done) { l with waiting, given := l.given + 1 }

end Lexer

/-- The tokens of a text, up to a problem if there is one.  Each step cuts off
at least one character or gives out one of at most four tokens for it. -/
def tokens (text : List Char) : List Token × Option Malformed :=
  (Lexer.ofText text).run (8 * text.length + 32) []

end ImageBuild.Yaml
