import ImageBuild.Yaml.Document
import ImageBuild.Yaml.Event.Grammar
import ImageBuild.Yaml.Scalar
import ImageBuild.Yaml.Token.Lexer

/-!
# Reading YAML

`Yaml.read` gives the value of the one document of a text, null when there is
none.  Values are read from the items of the document in the order of the text,
and an alias is read as the node that it stands for, so that the first fault in
this order decides.
-/

namespace ImageBuild.Yaml

/-- How deep collections may be nested. -/
def maxDepth : Nat := 128

/-- The items that are left to read, and how many aliases may still be
followed. -/
structure Reading where
  items : List (Item × Mark)
  aliases : Nat

/-- The item in front, or the fault that ended the document. -/
def Reading.head (document : Document) (r : Reading) : Except Fault (Item × Mark) :=
  match r.items, document.fault with
  | head :: _, _ => .ok head
  | [], some fault => .error fault
  | [], none => .error .severalDocuments

def Reading.skip (r : Reading) : Reading :=
  { r with items := r.items.tail }

/-- The node that an alias stands for, to be read in its place. -/
def Reading.follow (document : Document) (anchor : Nat) (r : Reading) :
    Except Fault Reading :=
  match r.aliases with
  | 0 => .error .tooManyAliases
  | aliases + 1 =>
      let node := document.anchored.find? fun (number, _) => number == anchor
      .ok { items := (node.map Prod.snd).getD [], aliases }

/-- Go on behind a place after something else was read. -/
def Reading.resume (r : Reading) (other : Reading) : Reading :=
  { r with aliases := other.aliases }

/-- The key of a mapping, and the step to its value. -/
def readKey (document : Document) (first : Bool) (trail : Trail) (r : Reading) :
    Except Fault (String × Step × Reading) := do
  let (item, mark) ← r.head document
  let text (item : Item) (mark : Mark) : Except Fault String :=
    match item with
    | .scalar _ text _ => .ok (String.ofList text)
    | .sequenceStart _ => .error (.mismatch (.sequenceKey first) (some (mark, trail)))
    | _ => .error (.mismatch (.mappingKey first) (some (mark, trail)))
  match item with
  | .reference anchor =>
      let target ← r.follow document anchor
      let (item, mark) ← target.head document
      return (← text item mark, .unnamed, r.skip.resume target)
  | _ =>
      let name ← text item mark
      return (name, .key name, r.skip)

mutual

/-- The value of the node in front.  `fuel` bounds the nesting of calls and
`depth` that of collections. -/
def readNode (document : Document) (fuel depth : Nat) (trail : Trail) (r : Reading) :
    Except Fault (Json × Reading) :=
  match fuel with
  | 0 => .error .tooManyAliases
  | fuel + 1 => do
      let (item, mark) ← r.head document
      let mismatch (m : Mismatch) : Fault := .mismatch m (some (mark, trail))
      match item with
      | .reference anchor =>
          let target ← r.follow document anchor
          let (value, target) ← readNode document fuel depth trail target
          return (value, r.skip.resume target)
      | .scalar tag text plain =>
          if isLocalTag tag then throw (mismatch .taggedNode)
          match scalarValue tag text plain with
          | .ok value => return (value, r.skip)
          | .error m => throw (mismatch m)
      | .sequenceStart tag =>
          if isLocalTag tag then throw (mismatch .taggedNode)
          match depth with
          | 0 => throw (.tooDeep mark)
          | depth + 1 =>
              let (items, r) ← readItems document fuel depth trail 0 r.skip
              return (.array items, r)
      | .mappingStart tag =>
          if isLocalTag tag then throw (mismatch .taggedNode)
          match depth with
          | 0 => throw (.tooDeep mark)
          | depth + 1 =>
              let (members, r) ← readMembers document fuel depth trail [] r.skip
              return (.object members, r)
      | .sequenceEnd | .mappingEnd => return (.null, r.skip)

/-- The items of a sequence from an index on. -/
def readItems (document : Document) (fuel depth : Nat) (trail : Trail) (index : Nat)
    (r : Reading) : Except Fault (List Json × Reading) :=
  match fuel with
  | 0 => .error .tooManyAliases
  | fuel + 1 => do
      match ← r.head document with
      | (.sequenceEnd, _) => return ([], r.skip)
      | _ =>
          let (value, r) ← readNode document fuel depth (.index index :: trail) r
          let (values, r) ← readItems document fuel depth trail (index + 1) r
          return (value :: values, r)

/-- The members of a mapping, added to the ones read before. -/
def readMembers (document : Document) (fuel depth : Nat) (trail : Trail)
    (members : Json.Members) (r : Reading) : Except Fault (Json.Members × Reading) :=
  match fuel with
  | 0 => .error .tooManyAliases
  | fuel + 1 => do
      match ← r.head document with
      | (.mappingEnd, _) => return (members, r.skip)
      | _ =>
          let (name, step, r) ← readKey document members.isEmpty trail r
          let (value, r) ← readNode document fuel depth (step :: trail) r
          readMembers document fuel depth trail (Json.Members.insert name value members) r

end

/-- The value of a document.  A scalar at the root is judged as an optional
value first, which is why a wrong null there has no place. -/
def Document.read (document : Document) : Except Fault Json := do
  let count := document.items.length
  let reading : Reading := { items := document.items, aliases := 100 * count }
  match ← reading.head document with
  | (.scalar (some tag) text true, _) =>
      if coreType? tag = some .null ∧ isNullText text = false then
        throw (.mismatch (.notNull (String.ofList text)) none)
  | _ => pure ()
  let (value, _) ← readNode document ((maxDepth + 2) * (count + 4)) maxDepth [] reading
  return value

/-- The offset in bytes of the first character that no document may hold. -/
def controlCharacter? (text : List Char) : Option Nat :=
  go 0 text
where
  go (offset : Nat) : List Char → Option Nat
    | [] => none
    | c :: rest => if isAllowed c then go (offset + c.utf8Size) rest else some offset

/-- The value of a text. -/
def read (text : String) : Except Fault Json := do
  let chars := text.toList
  match controlCharacter? chars with
  | some offset => throw (.controlCharacter offset)
  | none => pure ()
  let (tokens, problem) := tokens chars
  let (events, problem) := events tokens problem
  let (document, more) := Document.first? events problem
  match document with
  | none => return .null
  | some document =>
      let value ← document.read
      match document.fault with
      | some fault => throw fault
      | none => if more then throw .severalDocuments else return value

end ImageBuild.Yaml
