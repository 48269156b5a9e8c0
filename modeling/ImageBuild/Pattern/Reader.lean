import ImageBuild.Pattern.Basic
import ImageBuild.Pattern.Class

/-!
# Reading patterns

The grammar of patterns: alternatives, pieces with quantifiers, groups, flags,
looks ahead and behind, and references back to groups.
-/

namespace ImageBuild.Pattern

/-- The flags that hold at a place of a pattern. -/
structure Flags where
  anyCase : Bool
  multiLine : Bool
  dotAll : Bool
  spaced : Bool
  lazyFirst : Bool

/-- No flag set. -/
def Flags.none : Flags := ⟨false, false, false, false, false⟩

/-- What is left of a pattern, the flags there, and the groups so far. -/
structure Unread where
  rest : List Char
  flags : Flags
  groups : Nat
  names : List (List Char × Nat)
  numbered : Bool

namespace Unread

/-- The same at another place. -/
def goOn (u : Unread) (rest : List Char) : Unread :=
  { u with rest }

/-- Leave out blanks and comments where the flags allow them. -/
def skipBlanks (u : Unread) : Unread :=
  if u.flags.spaced then u.goOn (go (u.rest.length + 1) u.rest) else u
where
  go : Nat → List Char → List Char
    | 0, text => text
    | fuel + 1, text =>
        match text with
        | '#' :: rest => go fuel (rest.dropWhile fun c => c != '\n')
        | c :: rest => if Text.isBlank c then go fuel rest else c :: rest
        | [] => []

end Unread

/-- A decimal number. -/
def readDecimal? (text : List Char) : Option (Nat × List Char) :=
  let digits := text.takeWhile Text.isAsciiDigit
  if digits.isEmpty then none
  else
    some (digits.foldl (fun n c => n * 10 + (c.toNat - 48)) 0, text.drop digits.length)

/-- The counts of a quantifier, behind the opening brace. -/
def readCounts? (text : List Char) : Option (Nat × Option Nat × List Char) := do
  let (least, rest) ← match text with
    | ',' :: _ => some (0, text)
    | _ => readDecimal? text
  match rest with
  | '}' :: rest => return (least, some least, rest)
  | ',' :: rest =>
      match readDecimal? rest with
      | some (most, '}' :: rest) => return (least, some most, rest)
      | some _ => none
      | none =>
          match rest with
          | '}' :: rest => return (least, none, rest)
          | _ => none
  | _ => none

/-- A quantifier. -/
def readQuantifier? : List Char → Option (Nat × Option Nat × List Char)
  | '?' :: rest => some (0, some 1, rest)
  | '*' :: rest => some (0, none, rest)
  | '+' :: rest => some (1, none, rest)
  | '{' :: rest => readCounts? rest
  | _ => none

/-- Conditions on a place and empty pieces cannot be repeated. -/
def isRepeatable : Node → Bool
  | .look _ _ _ | .nothing | .boundary _ => false
  | _ => true

/-- The name of a group up to a closing character. -/
def readName? (closing : Char) (text : List Char) : Option (List Char × List Char) :=
  let name := text.takeWhile fun c => c == '_' || Text.isWordChar c
  match text.drop name.length with
  | c :: rest => if c = closing ∧ !name.isEmpty then some (name, rest) else none
  | [] => none

/-- A reference to a group that has begun, by its number or by its name. -/
def readReference? (u : Unread) (group : Nat) (rest : List Char) : Option (Node × Unread) :=
  if 0 < group ∧ group ≤ u.groups then
    some (.backreference group u.flags.anyCase, u.goOn rest)
  else none

def readNamedReference? (u : Unread) (closing : Char) (text : List Char) :
    Option (Node × Unread) := do
  let (name, rest) ← readName? closing text
  let (_, group) ← u.names.find? fun (other, _) => other == name
  readReference? u group rest

/-- The special boundaries that are written by name in braces. -/
def boundaryOfName? (name : String) : Option Boundary :=
  match name with
  | "start" => some .wordStart
  | "end" => some .wordEnd
  | "start-half" => some .wordStartHalf
  | "end-half" => some .wordEndHalf
  | _ => none

/-- A boundary of words behind its letter. -/
def readWordBoundary? : List Char → Option (Boundary × List Char)
  | '{' :: text =>
      let isNameChar (c : Char) : Bool := Text.isAsciiLetter c || c == '-'
      if (text.head?.map isNameChar).getD false then do
        let name := text.takeWhile isNameChar
        match text.drop name.length with
        | '}' :: rest => return (← boundaryOfName? (String.ofList name), rest)
        | _ => none
      else some (.word, '{' :: text)
  | text => some (.word, text)

/-- An escape outside of brackets, behind its backslash. -/
def readEscape? (u : Unread) (text : List Char) : Option (Node × Unread) :=
  match text with
  | [] => none
  | c :: rest =>
      if Text.isAsciiDigit c then do
        let (group, rest) ← readDecimal? text
        readReference? { u with numbered := true } group rest
      else
        match c with
        | 'k' =>
            match rest with
            | '<' :: rest => readNamedReference? u '>' rest
            | _ => none
        | 'A' => some (.boundary .textStart, u.goOn rest)
        | 'z' => some (.boundary .textEnd, u.goOn rest)
        | 'Z' => some (.boundary .textEndBeforeBreaks, u.goOn rest)
        | 'b' => (readWordBoundary? rest).map fun (b, rest) => (.boundary b, u.goOn rest)
        | 'B' => some (.boundary .notWord, u.goOn rest)
        | '<' => some (.boundary .wordStart, u.goOn rest)
        | '>' => some (.boundary .wordEnd, u.goOn rest)
        | 'h' | 'H' =>
            (CharSet.ofAsciiName? "xdigit").map fun s =>
              (.char (s.negateIf (c == 'H')), u.goOn rest)
        | _ =>
            (readPiece? text).map fun (piece, rest) =>
              (.char (piece.toSet u.flags.anyCase), u.goOn rest)

/-- The flags behind a question mark, up to the colon or the closing bracket,
and whether it was the bracket. -/
def readFlags? : Nat → Bool → Bool → Flags → List Char → Option (Flags × Bool × List Char)
  | 0, _, _, _, _ => none
  | fuel + 1, fresh, on, f, text =>
      match text with
      | 'i' :: rest => readFlags? fuel false on { f with anyCase := on } rest
      | 'm' :: rest => readFlags? fuel false on { f with multiLine := on } rest
      | 's' :: rest => readFlags? fuel false on { f with dotAll := on } rest
      | 'x' :: rest => readFlags? fuel false on { f with spaced := on } rest
      | 'U' :: rest => readFlags? fuel false on { f with lazyFirst := on } rest
      | 'u' :: rest => if on then readFlags? fuel false on f rest else none
      | '-' :: rest => if on then readFlags? fuel true false f rest else none
      | ':' :: rest => if fresh && !on then none else some (f, false, rest)
      | ')' :: rest => if fresh then none else some (f, true, rest)
      | _ => none

/-- The kinds of groups by what follows the opening bracket. -/
inductive GroupKind where
  | capture (name : Option (List Char))
  | atomic
  | look (ahead positive : Bool)
  | flags (rest : List Char)
  | reference (rest : List Char)

/-- The kind of a group and what is left behind its sign. -/
def readGroupKind? : List Char → Option (GroupKind × List Char)
  | '?' :: '=' :: rest => some (.look true true, rest)
  | '?' :: '!' :: rest => some (.look true false, rest)
  | '?' :: '<' :: '=' :: rest => some (.look false true, rest)
  | '?' :: '<' :: '!' :: rest => some (.look false false, rest)
  | '?' :: '<' :: rest => (readName? '>' rest).map fun (name, rest) => (.capture (some name), rest)
  | '?' :: 'P' :: '<' :: rest =>
      (readName? '>' rest).map fun (name, rest) => (.capture (some name), rest)
  | '?' :: 'P' :: '=' :: rest => some (.reference rest, rest)
  | '?' :: '>' :: rest => some (.atomic, rest)
  | '?' :: rest => some (.flags rest, rest)
  | rest => some (.capture none, rest)

/-- How deep groups may be nested. -/
def maxGroupDepth : Nat := 64

/-- The closing bracket of a group; the flags of the place in front of the
group hold again behind it. -/
def closeGroup? (outer : Flags) (u : Unread) : Option Unread :=
  match u.rest with
  | ')' :: rest => some { u with rest, flags := outer }
  | _ => none

mutual

/-- Alternatives, up to a closing bracket or the end. -/
def readChoice? (fuel depth : Nat) (u : Unread) : Option (Node × Unread) :=
  match fuel with
  | 0 => none
  | fuel + 1 => do
      let (first, u) ← readBranch? fuel depth u
      let u := u.skipBlanks
      match u.rest with
      | '|' :: rest =>
          let (second, u) ← readChoice? fuel depth (u.goOn rest)
          return (.choice first second, u)
      | _ => return (first, u)

/-- Pieces one behind the other. -/
def readBranch? (fuel depth : Nat) (u : Unread) : Option (Node × Unread) :=
  match fuel with
  | 0 => none
  | fuel + 1 => do
      match u.skipBlanks.rest with
      | [] | '|' :: _ | ')' :: _ => return (.nothing, u.skipBlanks)
      | _ =>
          let (first, u) ← readRepeated? fuel depth u
          let (more, u) ← readBranch? fuel depth u
          match first, more with
          | .nothing, _ => return (more, u)
          | _, .nothing => return (first, u)
          | _, _ => return (.sequence first more, u)

/-- A piece with its quantifier. -/
def readRepeated? (fuel depth : Nat) (u : Unread) : Option (Node × Unread) :=
  match fuel with
  | 0 => none
  | fuel + 1 => do
      let (body, u) ← readAtom? fuel depth u
      let u := u.skipBlanks
      match readQuantifier? u.rest with
      | none => return (body, u)
      | some (least, most, rest) =>
          if !isRepeatable body then none
          else
            let u := (u.goOn rest).skipBlanks
            let (isLazy, rest) := match u.rest with
              | '?' :: rest => (true, rest)
              | rest => (false, rest)
            let node := Node.repeated body least most (isLazy == u.flags.lazyFirst)
            match rest with
            | '+' :: rest => return (.atomic node, u.goOn rest)
            | _ => return (node, u.goOn rest)

/-- A single piece.  A quantifier without a piece in front of it stands behind
an empty one. -/
def readAtom? (fuel depth : Nat) (u : Unread) : Option (Node × Unread) :=
  match fuel with
  | 0 => none
  | fuel + 1 =>
      let u := u.skipBlanks
      match u.rest with
      | [] => some (.nothing, u)
      | '.' :: rest =>
          let s := if u.flags.dotAll then CharSet.empty.compl else (CharSet.ofChar '\n').compl
          some (.char s, u.goOn rest)
      | '^' :: rest =>
          some (.boundary (if u.flags.multiLine then .lineStart else .textStart), u.goOn rest)
      | '$' :: rest =>
          some (.boundary (if u.flags.multiLine then .lineEnd else .textEnd), u.goOn rest)
      | '(' :: rest => readGroup? fuel depth (u.goOn rest)
      | '[' :: rest =>
          (readClass? u.flags.anyCase rest).map fun (s, rest) => (.char s, u.goOn rest)
      | '\\' :: rest => readEscape? u rest
      | c :: rest =>
          if c = '+' ∨ c = '*' ∨ c = '?' ∨ c = '|' ∨ c = ')' then some (.nothing, u)
          else some (.char ((CharSet.ofChar c).anyCaseIf u.flags.anyCase), u.goOn rest)

/-- A group behind its opening bracket. -/
def readGroup? (fuel depth : Nat) (u : Unread) : Option (Node × Unread) :=
  match fuel with
  | 0 => none
  | fuel + 1 => do
      let depth := depth + 1
      let outer := u.flags
      if maxGroupDepth ≤ depth then none
      else
        let u := u.skipBlanks
        let (kind, rest) ← readGroupKind? u.rest
        let u := u.goOn rest
        match kind with
        | .capture name =>
            let group := u.groups + 1
            let u := { u with
              groups := group
              names := match name with
                | some name => (name, group) :: u.names
                | none => u.names }
            let (body, u) ← readChoice? fuel depth u
            return (.capture group body, ← closeGroup? outer u)
        | .atomic =>
            let (body, u) ← readChoice? fuel depth u
            return (.atomic body, ← closeGroup? outer u)
        | .look ahead positive =>
            let (body, u) ← readChoice? fuel depth u
            return (.look ahead positive body, ← closeGroup? outer u)
        | .reference rest => readNamedReference? u ')' rest
        | .flags rest =>
            let (flags, closed, rest) ← readFlags? (rest.length + 1) true true u.flags rest
            if closed then return (.nothing, { u with rest, flags })
            else
              let (body, u) ← readChoice? fuel depth { u with rest, flags }
              return (body, ← closeGroup? outer u)

end

/-- The pattern that a text writes.  Groups may be referred to by number or by
name, but not both in one pattern. -/
def Node.ofText? (text : List Char) : Option Node := do
  let (node, u) ← readChoice? (6 * text.length + 8) 0
    { rest := text, flags := Flags.none, groups := 0, names := [], numbered := false }
  if !u.rest.isEmpty || (u.numbered && !u.names.isEmpty) then none
  else return node

end ImageBuild.Pattern
