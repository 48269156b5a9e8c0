import ImageBuild.Yaml.Event

/-!
# From tokens to events

The grammar of documents as a machine that knows what it awaits next and, on a
stack, what it awaits when the current node is finished.  Nodes may be left out
nearly everywhere; an empty scalar then takes their place.
-/

namespace ImageBuild.Yaml

/-- What may follow in the text.  Entries of collections carry the place at
which the collection began. -/
inductive Awaited where
  | stream
  | laterDocument
  | documentContent
  | documentEnd
  | blockNode
  | blockSequence
  | blockSequenceEntry (began : Mark)
  | indentlessEntry
  | blockMapping
  | blockKey (began : Mark)
  | blockValue (began : Mark)
  | flowSequence
  | flowEntry (began : Mark)
  | pairKey (began : Mark)
  | pairValue (began : Mark)
  | pairEnd (began : Mark)
  | flowMapping
  | flowKey (began : Mark)
  | flowValue (began : Mark)
  | omittedValue (began : Mark)
  | nothing
deriving DecidableEq, Repr

/-- The tokens that are left and the problem behind them, what is awaited now
and later, and the tag handles of the current document. -/
structure Machine where
  tokens : List Token
  problem : Option Malformed
  awaited : Awaited
  outer : List Awaited
  handles : List (List Char × List Char)

namespace Machine

/-- The next token.  Tokens end with the end of the stream or with a problem. -/
def peek (m : Machine) : Except Malformed Token :=
  match m.tokens, m.problem with
  | t :: _, _ => .ok t
  | [], some problem => .error problem
  | [], none => .error { problem := .streamStartMissing, mark := Mark.start, activity := none }

/-- Leave the next token behind. -/
def skip (m : Machine) : Machine :=
  { m with tokens := m.tokens.tail }

/-- Go on with what was awaited behind the current node. -/
def pop (m : Machine) : Machine :=
  match m.outer with
  | [] => { m with awaited := .nothing }
  | next :: outer => { m with awaited := next, outer }

/-- Await something behind the node that follows. -/
def push (m : Machine) (later : Awaited) : Machine :=
  { m with outer := later :: m.outer }

/-- Await something next. -/
def await (m : Machine) (next : Awaited) : Machine :=
  { m with awaited := next }

/-- An event without content. -/
def emit (m : Machine) (kind : EventKind) (mark : Mark) : Except Malformed (Event × Machine) :=
  .ok ({ kind, mark }, m)

/-- An empty scalar. -/
def emitEmpty (m : Machine) (mark : Mark) : Except Malformed (Event × Machine) :=
  .ok (Event.empty mark, m)

/-- The handles that every document knows. -/
def commonHandles : List (List Char × List Char) :=
  [(['!'], ['!']), (['!', '!'], "tag:yaml.org,2002:".toList)]

/-- The directives in front of a document, at most `fuel` of them. -/
def readDirectives : Nat → Bool → Machine → Except Malformed Machine
  | 0, _, m => .ok m
  | fuel + 1, versioned, m => do
      let t ← m.peek
      let refuse (problem : Problem) : Except Malformed Machine :=
        .error { problem, mark := t.start, activity := none }
      match t.kind with
      | .versionDirective major minor =>
          if versioned then refuse .versionRepeated
          else if major = 1 ∧ (minor = 1 ∨ minor = 2) then readDirectives fuel true m.skip
          else refuse .versionIncompatible
      | .tagDirective handle expansion =>
          if m.handles.any fun (other, _) => other == handle then refuse .handleRepeated
          else
            readDirectives fuel versioned
              { m.skip with handles := m.handles ++ [(handle, expansion)] }
      | _ => .ok { m with handles := m.handles ++ commonHandles }

/-- The tokens with which a document begins that has no marker or directive. -/
def startsImplicitly : TokenKind → Bool
  | .versionDirective _ _ | .tagDirective _ _ | .documentStart | .streamEnd => false
  | _ => true

/-- A document, or the end of the stream. -/
def readDocument (m : Machine) (first : Bool) : Except Malformed (Option (Event × Machine)) := do
  let m := if first then m else
    { m with tokens := m.tokens.dropWhile fun t => t.kind == .documentEnd }
  let t ← m.peek
  if t.kind == .streamEnd then return none
  else if first && startsImplicitly t.kind then
    let m := { m with handles := commonHandles }
    return some ({ kind := .documentStart, mark := t.start }, (m.push .documentEnd).await .blockNode)
  else
    let m ← readDirectives (m.tokens.length + 1) false { m with handles := [] }
    let next ← m.peek
    if next.kind == .documentStart then
      return some ({ kind := .documentStart, mark := t.start },
        (m.skip.push .documentEnd).await .documentContent)
    else throw { problem := .documentStartMissing, mark := next.start, activity := none }

/-- An anchor and a tag in either order, each at most once, and the place of
the tag. -/
def readProperties (m : Machine) :
    Except Malformed (Option (List Char) × Option (List Char × List Char × Mark) × Machine) := do
  let t ← m.peek
  match t.kind with
  | .anchor name =>
      let m := m.skip
      let t ← m.peek
      match t.kind with
      | .tag handle rest => return (some name, some (handle, rest, t.start), m.skip)
      | _ => return (some name, none, m)
  | .tag handle rest =>
      let tag := some (handle, rest, t.start)
      let m := m.skip
      let t ← m.peek
      match t.kind with
      | .anchor name => return (some name, tag, m.skip)
      | _ => return (none, tag, m)
  | _ => return (none, none, m)

/-- The full tag of a handle and a rest. -/
def resolveTag (m : Machine) (began : Mark) :
    Option (List Char × List Char × Mark) → Except Malformed (Option (List Char))
  | none => .ok none
  | some (handle, rest, mark) =>
      if handle.isEmpty then .ok (some rest)
      else
        match m.handles.find? fun (other, _) => other == handle with
        | some (_, expansion) => .ok (some (expansion ++ rest))
        | none =>
            .error { problem := .handleUndefined, mark, activity := some (.node, began) }

/-- A node.  Block collections need `block`; a sequence that is not indented
needs `indentless`. -/
def readNode (m : Machine) (block indentless : Bool) : Except Malformed (Event × Machine) := do
  let first ← m.peek
  let began := first.start
  match first.kind with
  | .reference name => m.pop.skip.emit (.reference name) began
  | _ =>
      let (anchor, written, m) ← m.readProperties
      let t ← m.peek
      let tag ← m.resolveTag began written
      let properties : Properties := ⟨anchor, tag⟩
      match t.kind, block with
      | .blockEntry, _ =>
          if indentless then (m.await .indentlessEntry).emit (.sequenceStart properties) began
          else content m properties began block t
      | .scalar text style, _ =>
          m.pop.skip.emit (.scalar properties text (style == .plain)) began
      | .flowSequenceStart, _ => (m.await .flowSequence).emit (.sequenceStart properties) began
      | .flowMappingStart, _ => (m.await .flowMapping).emit (.mappingStart properties) began
      | .blockSequenceStart, true =>
          (m.await .blockSequence).emit (.sequenceStart properties) began
      | .blockMappingStart, true => (m.await .blockMapping).emit (.mappingStart properties) began
      | _, _ => content m properties began block t
where
  /-- A node that consists of its properties alone. -/
  content (m : Machine) (properties : Properties) (began : Mark) (block : Bool) (t : Token) :
      Except Malformed (Event × Machine) :=
    if properties.anchor.isSome || properties.tag.isSome then
      m.pop.emit (.scalar properties [] true) began
    else
      .error
        { problem := .contentMissing, mark := t.start
          activity := some (if block then .blockNode else .flowNode, began) }

/-- A node in front of something else, unless one of some tokens follows at
once; then an empty scalar stands at a place. -/
def readOptional (m : Machine) (block : Bool) (later : Awaited) (absent : TokenKind → Bool)
    (place : Token → Mark) : Except Malformed (Event × Machine) := do
  let t ← m.peek
  if absent t.kind then (m.await later).emitEmpty (place t)
  else (m.push later).readNode block (match later with
    | .blockKey _ | .blockValue _ => true
    | _ => false)

/-- The tokens behind which a key or value of a block mapping was left out. -/
def endsBlockPart : TokenKind → Bool
  | .key | .value | .blockEnd => true
  | _ => false

/-- The tokens behind which an entry of a flow sequence ends. -/
def endsSequencePart : TokenKind → Bool
  | .flowEntry | .flowSequenceEnd => true
  | _ => false

/-- The tokens behind which an entry of a flow mapping ends. -/
def endsMappingPart : TokenKind → Bool
  | .flowEntry | .flowMappingEnd => true
  | _ => false

/-- An entry of a block sequence or its end. -/
def readBlockEntry (m : Machine) (began : Mark) : Except Malformed (Event × Machine) := do
  let t ← m.peek
  match t.kind with
  | .blockEntry =>
      m.skip.readOptional true (.blockSequenceEntry began)
        (fun k => k == .blockEntry || k == .blockEnd) fun _ => t.stop
  | .blockEnd => m.pop.skip.emit .sequenceEnd t.start
  | _ =>
      .error
        { problem := .dashMissing, mark := t.start, activity := some (.blockSequence, began) }

/-- An entry of a sequence that is not indented, or its end. -/
def readIndentlessEntry (m : Machine) : Except Malformed (Event × Machine) := do
  let t ← m.peek
  match t.kind with
  | .blockEntry =>
      m.skip.readOptional true .indentlessEntry
        (fun k => k == .blockEntry || endsBlockPart k) fun _ => t.stop
  | _ => m.pop.emit .sequenceEnd t.start

/-- A key of a block mapping or its end. -/
def readBlockKey (m : Machine) (began : Mark) : Except Malformed (Event × Machine) := do
  let t ← m.peek
  match t.kind with
  | .key => m.skip.readOptional true (.blockValue began) endsBlockPart fun _ => t.stop
  | .blockEnd => m.pop.skip.emit .mappingEnd t.start
  | _ =>
      .error { problem := .keyMissing, mark := t.start, activity := some (.blockMapping, began) }

/-- A value of a block mapping. -/
def readBlockValue (m : Machine) (began : Mark) : Except Malformed (Event × Machine) := do
  let t ← m.peek
  match t.kind with
  | .value => m.skip.readOptional true (.blockKey began) endsBlockPart fun _ => t.stop
  | _ => (m.await (.blockKey began)).emitEmpty t.start

/-- The comma in front of an entry of a flow collection. -/
def readComma (m : Machine) (began : Mark) (problem : Problem) (activity : Activity) :
    Except Malformed Machine := do
  let t ← m.peek
  match t.kind with
  | .flowEntry => return m.skip
  | _ => throw { problem, mark := t.start, activity := some (activity, began) }

/-- The next entry of a flow sequence, which may be a single pair, or its end. -/
def readFlowEntry (m : Machine) (began : Mark) (first : Bool) :
    Except Malformed (Event × Machine) := do
  let t ← m.peek
  let m ←
    if t.kind == .flowSequenceEnd || first then pure m
    else m.readComma began .sequenceEndMissing .flowSequence
  let t ← m.peek
  match t.kind with
  | .flowSequenceEnd => m.pop.skip.emit .sequenceEnd t.start
  | .key => (m.skip.await (.pairKey began)).emit (.mappingStart Properties.none) t.start
  | _ => (m.push (.flowEntry began)).readNode false false

/-- The key of a single pair; where it is left out, the token that shows this
is passed over. -/
def readPairKey (m : Machine) (began : Mark) : Except Malformed (Event × Machine) := do
  let t ← m.peek
  if t.kind == .value || endsSequencePart t.kind then
    (m.skip.await (.pairValue began)).emitEmpty t.stop
  else (m.push (.pairValue began)).readNode false false

/-- The value of a single pair. -/
def readPairValue (m : Machine) (began : Mark) : Except Malformed (Event × Machine) := do
  let t ← m.peek
  match t.kind with
  | .value => m.skip.readOptional false (.pairEnd began) endsSequencePart Token.start
  | _ => (m.await (.pairEnd began)).emitEmpty t.start

/-- The next key of a flow mapping or its end. -/
def readFlowKey (m : Machine) (began : Mark) (first : Bool) :
    Except Malformed (Event × Machine) := do
  let t ← m.peek
  let m ←
    if t.kind == .flowMappingEnd || first then pure m
    else m.readComma began .mappingEndMissing .flowMapping
  let t ← m.peek
  match t.kind with
  | .flowMappingEnd => m.pop.skip.emit .mappingEnd t.start
  | .key =>
      m.skip.readOptional false (.flowValue began)
        (fun k => k == .value || endsMappingPart k) Token.start
  | _ => (m.push (.omittedValue began)).readNode false false

/-- A value of a flow mapping. -/
def readFlowValue (m : Machine) (began : Mark) : Except Malformed (Event × Machine) := do
  let t ← m.peek
  match t.kind with
  | .value => m.skip.readOptional false (.flowKey began) endsMappingPart Token.start
  | _ => (m.await (.flowKey began)).emitEmpty t.start

/-- The start of a collection, whose entries are awaited next. -/
def enter (m : Machine) : Except Malformed (Mark × Machine) := do
  return ((← m.peek).start, m.skip)

/-- The next event, `none` at the end of the stream. -/
def next (m : Machine) : Except Malformed (Option (Event × Machine)) := do
  match m.awaited with
  | .nothing => return none
  | .stream =>
      let _ ← m.peek
      m.skip.readDocument true
  | .laterDocument => m.readDocument false
  | .documentContent =>
      let t ← m.peek
      if !startsImplicitly t.kind || t.kind == .documentEnd then m.pop.emitEmpty t.start
      else m.readNode true false
  | .documentEnd =>
      let t ← m.peek
      let m := if t.kind == .documentEnd then m.skip else m
      (m.await .laterDocument).emit .documentEnd t.start
  | .blockNode => m.readNode true false
  | .blockSequence => let (began, m) ← m.enter; m.readBlockEntry began
  | .blockSequenceEntry began => m.readBlockEntry began
  | .indentlessEntry => m.readIndentlessEntry
  | .blockMapping => let (began, m) ← m.enter; m.readBlockKey began
  | .blockKey began => m.readBlockKey began
  | .blockValue began => m.readBlockValue began
  | .flowSequence => let (began, m) ← m.enter; m.readFlowEntry began true
  | .flowEntry began => m.readFlowEntry began false
  | .pairKey began => m.readPairKey began
  | .pairValue began => m.readPairValue began
  | .pairEnd began =>
      let t ← m.peek
      (m.await (.flowEntry began)).emit .mappingEnd t.start
  | .flowMapping => let (began, m) ← m.enter; m.readFlowKey began true
  | .flowKey began => m.readFlowKey began false
  | .flowValue began => m.readFlowValue began
  | .omittedValue began =>
      let t ← m.peek
      (m.await (.flowKey began)).emitEmpty t.start

/-- At most `fuel` further events, and the problem that ends them early. -/
def run : Nat → List Event → Machine → List Event × Option Malformed
  | 0, done, _ => (done.reverse, none)
  | fuel + 1, done, m =>
      match m.next with
      | .error problem => (done.reverse, some problem)
      | .ok none => (done.reverse, none)
      | .ok (some (e, m)) => run fuel (e :: done) m

end Machine

/-- The events of tokens and of the problem behind them. -/
def events (tokens : List Token) (problem : Option Malformed) : List Event × Option Malformed :=
  Machine.run (4 * tokens.length + 16) []
    { tokens, problem, awaited := .stream, outer := [], handles := [] }

end ImageBuild.Yaml
