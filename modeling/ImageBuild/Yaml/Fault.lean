import ImageBuild.Text.Quoted

/-!
# Faults in YAML text

What can be wrong with a YAML text, where it was noticed, and what was being
read at the time.  `Fault.message` gives the wording.
-/

namespace ImageBuild.Yaml

/-- A place in a text: the characters in front of it, the line breaks in front
of it and the characters between the last of them and the place. -/
structure Mark where
  index : Nat
  line : Nat
  column : Nat
deriving DecidableEq, Repr

/-- The start of a text. -/
def Mark.start : Mark := ⟨0, 0, 0⟩

/-- A place on the first line in front of its first character. -/
def Mark.isStart (m : Mark) : Bool :=
  m.line == 0 && m.column == 0

/-- A place in words; lines and columns are counted from one. -/
def Mark.message (m : Mark) : String :=
  s!"line {m.line + 1} column {m.column + 1}"

/-- What is wrong with the form of a text. -/
inductive Problem where
  | colonMissing
  | keyMisplaced
  | valueMisplaced
  | entryMisplaced
  | noTokenStart
  | directiveUnknown
  | directiveUnnamed
  | directiveNotAlphabetic
  | lineEndMissing
  | versionSeparatorMissing
  | versionTooLong
  | versionMissing
  | blankMissing
  | blankOrLineEndMissing
  | handleStartMissing
  | verbatimEndMissing
  | tagMissing
  | octetMissing
  | leadingOctetWrong
  | trailingOctetWrong
  | anchorMissing
  | indentationZero
  | indentationTab
  | markerInQuotes
  | endInQuotes
  | escapeUnknown
  | escapeNotHexadecimal
  | escapeNotCharacter
  | colonInPlain
  | tabInPlain
  | streamStartMissing
  | documentStartMissing
  | versionIncompatible
  | versionRepeated
  | handleRepeated
  | handleUndefined
  | contentMissing
  | dashMissing
  | keyMissing
  | sequenceEndMissing
  | mappingEndMissing
deriving DecidableEq, Repr

def Problem.message : Problem → String
  | colonMissing => "could not find expected ':'"
  | keyMisplaced => "mapping keys are not allowed in this context"
  | valueMisplaced => "mapping values are not allowed in this context"
  | entryMisplaced => "block sequence entries are not allowed in this context"
  | noTokenStart => "found character that cannot start any token"
  | directiveUnknown => "found unknown directive name"
  | directiveUnnamed => "could not find expected directive name"
  | directiveNotAlphabetic => "found unexpected non-alphabetical character"
  | lineEndMissing => "did not find expected comment or line break"
  | versionSeparatorMissing => "did not find expected digit or '.' character"
  | versionTooLong => "found extremely long version number"
  | versionMissing => "did not find expected version number"
  | blankMissing => "did not find expected whitespace"
  | blankOrLineEndMissing => "did not find expected whitespace or line break"
  | handleStartMissing => "did not find expected '!'"
  | verbatimEndMissing => "did not find the expected '>'"
  | tagMissing => "did not find expected tag URI"
  | octetMissing => "did not find URI escaped octet"
  | leadingOctetWrong => "found an incorrect leading UTF-8 octet"
  | trailingOctetWrong => "found an incorrect trailing UTF-8 octet"
  | anchorMissing => "did not find expected alphabetic or numeric character"
  | indentationZero => "found an indentation indicator equal to 0"
  | indentationTab => "found a tab character where an indentation space is expected"
  | markerInQuotes => "found unexpected document indicator"
  | endInQuotes => "found unexpected end of stream"
  | escapeUnknown => "found unknown escape character"
  | escapeNotHexadecimal => "did not find expected hexadecimal number"
  | escapeNotCharacter => "found invalid Unicode character escape code"
  | colonInPlain => "found unexpected ':'"
  | tabInPlain => "found a tab character that violates indentation"
  | streamStartMissing => "did not find expected <stream-start>"
  | documentStartMissing => "did not find expected <document start>"
  | versionIncompatible => "found incompatible YAML document"
  | versionRepeated => "found duplicate %YAML directive"
  | handleRepeated => "found duplicate %TAG directive"
  | handleUndefined => "found undefined tag handle"
  | contentMissing => "did not find expected node content"
  | dashMissing => "did not find expected '-' indicator"
  | keyMissing => "did not find expected key"
  | sequenceEndMissing => "did not find expected ',' or ']'"
  | mappingEndMissing => "did not find expected ',' or '\x7d'"

/-- What was being read when a problem was noticed. -/
inductive Activity where
  | simpleKey
  | nextToken
  | directive
  | versionDirective
  | tagDirective
  | tagDirectiveHandle
  | tagDirectiveHandleEnd
  | tagDirectiveValue
  | anchor
  | reference
  | tag
  | tagValue
  | blockScalar
  | quotedScalar
  | quotedEscape
  | plainScalar
  | node
  | blockNode
  | flowNode
  | blockSequence
  | blockMapping
  | flowSequence
  | flowMapping
deriving DecidableEq, Repr

def Activity.message : Activity → String
  | simpleKey => "while scanning a simple key"
  | nextToken => "while scanning for the next token"
  | directive => "while scanning a directive"
  | versionDirective => "while scanning a %YAML directive"
  | tagDirective => "while scanning a %TAG directive"
  | tagDirectiveHandle => "while scanning a tag directive"
  | tagDirectiveHandleEnd => "while parsing a tag directive"
  | tagDirectiveValue => "while parsing a %TAG directive"
  | anchor => "while scanning an anchor"
  | reference => "while scanning an alias"
  | tag => "while scanning a tag"
  | tagValue => "while parsing a tag"
  | blockScalar => "while scanning a block scalar"
  | quotedScalar => "while scanning a quoted scalar"
  | quotedEscape => "while parsing a quoted scalar"
  | plainScalar => "while scanning a plain scalar"
  | node => "while parsing a node"
  | blockNode => "while parsing a block node"
  | flowNode => "while parsing a flow node"
  | blockSequence => "while parsing a block collection"
  | blockMapping => "while parsing a block mapping"
  | flowSequence => "while parsing a flow sequence"
  | flowMapping => "while parsing a flow mapping"

/-- A problem of form with its place, and where the surrounding piece began. -/
structure Malformed where
  problem : Problem
  mark : Mark
  activity : Option (Activity × Mark)
deriving DecidableEq, Repr

/-- The place is left out at the start of the text, and the start of the
surrounding piece also where it is the place itself. -/
def Malformed.message (m : Malformed) : String :=
  let place := if m.mark.isStart then "" else s!" at {m.mark.message}"
  let surrounding :=
    match m.activity with
    | none => ""
    | some (activity, began) =>
        let same := began.line == m.mark.line && began.column == m.mark.column
        let start := if began.isStart || same then "" else s!" at {began.message}"
        s!", {activity.message}{start}"
  s!"{m.problem.message}{place}{surrounding}"

/-- Where a value stands in a document. -/
inductive Step where
  | key (name : String)
  | index (i : Nat)
  | unnamed
deriving DecidableEq, Repr

/-- The way from the root of a document to a value, nearest step first. -/
abbrev Trail := List Step

/-- A way in writing; the empty way is a point. -/
def Trail.render : Trail → String
  | [] => "."
  | .index i :: rest => s!"{render rest}[{i}]"
  | .key name :: [] => name
  | .unnamed :: [] => "?"
  | .key name :: rest => s!"{render rest}.{name}"
  | .unnamed :: rest => s!"{render rest}.?"

/-- Why a node of a document stands for no value. -/
inductive Mismatch where
  | taggedNode
  | sequenceKey (first : Bool)
  | mappingKey (first : Bool)
  | notInteger (text : String)
  | notFloat (text : String)
  | notBoolean (text : String)
  | notNull (text : String)
  | integerTooLarge
deriving DecidableEq, Repr

/-- The first key of a mapping is asked for as a key, the others as texts. -/
def Mismatch.message : Mismatch → String
  | taggedNode => "invalid type: enum, expected any valid JSON value"
  | sequenceKey true => "invalid type: sequence, expected a string key"
  | sequenceKey false => "invalid type: sequence, expected a string"
  | mappingKey true => "invalid type: map, expected a string key"
  | mappingKey false => "invalid type: map, expected a string"
  | notInteger text => s!"invalid value: string {Text.quoted text}, expected an integer"
  | notFloat text => s!"invalid value: string {Text.quoted text}, expected a float"
  | notBoolean text => s!"invalid value: string {Text.quoted text}, expected a boolean"
  | notNull text => s!"invalid value: string {Text.quoted text}, expected null"
  | integerTooLarge => "JSON number out of range"

/-- Why no value can be read from a text. -/
inductive Fault where
  /-- A character, at an offset in bytes, that no document may hold. -/
  | controlCharacter (offset : Nat)
  | malformed (m : Malformed)
  | unknownAnchor (mark : Mark)
  | tooDeep (mark : Mark)
  | tooManyAliases
  | severalDocuments
  | mismatch (m : Mismatch) (place : Option (Mark × Trail))
deriving DecidableEq, Repr

/-- The place that a fault is reported for. -/
def Fault.mark? : Fault → Option Mark
  | controlCharacter _ => some Mark.start
  | malformed m => some m.mark
  | unknownAnchor mark => some mark
  | tooDeep mark => some mark
  | tooManyAliases => none
  | severalDocuments => none
  | mismatch _ place => place.map Prod.fst

/-- A place behind a text, unless it is the start. -/
def Mark.behind (m : Mark) : String :=
  if m.isStart then "" else s!" at {m.message}"

/-- The wording of a fault with its place. -/
def Fault.message : Fault → String
  | controlCharacter offset =>
      let place := if offset = 0 then "" else s!" at position {offset}"
      s!"control characters are not allowed{place}"
  | malformed m => m.message
  | unknownAnchor mark => s!"unknown anchor{mark.behind}"
  | tooDeep mark => s!"recursion limit exceeded{mark.behind}"
  | tooManyAliases => "repetition limit exceeded"
  | severalDocuments =>
      "deserializing from YAML containing more than one document is not supported"
  | mismatch m none => m.message
  | mismatch m (some (mark, trail)) =>
      let way := if trail.render = "." then "" else s!"{trail.render}: "
      s!"{way}{m.message}{mark.behind}"

end ImageBuild.Yaml
