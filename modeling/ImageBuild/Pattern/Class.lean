import ImageBuild.Json.Reader
import ImageBuild.Pattern.Property
import ImageBuild.Text.Script

/-!
# Escapes and bracketed classes

How single characters and sets of characters are written in patterns: codes in
hexadecimal, classes by letter or by name, and classes in brackets with ranges,
nested classes and set operations.
-/

namespace ImageBuild.Pattern

open Json (hexValue?)

/-- The character of a code point, unless it is none. -/
def charOfCode? (code : Nat) : Option Char :=
  if (0xD800 ≤ code ∧ code ≤ 0xDFFF) ∨ 0x10FFFF < code then none else some (Char.ofNat code)

/-- The value of hexadecimal digits; there is at least one. -/
def codeOfDigits? : List Char → Option Nat
  | [] => none
  | digits => digits.foldlM (fun n c => do return n * 16 + (← hexValue? c)) 0

/-- A character by its code: so many digits, or digits in braces. -/
def readCode? (width : Nat) : List Char → Option (Char × List Char)
  | '{' :: text => do
      let digits := text.takeWhile fun c => c != '}'
      let code ← codeOfDigits? digits
      match text.drop digits.length with
      | '}' :: rest => return (← charOfCode? code, rest)
      | _ => none
  | text => do
      let digits := text.take width
      if digits.length < width then none
      else return (← charOfCode? (← codeOfDigits? digits), text.drop width)

/-- The number of digits that a letter asks for. -/
def codeWidth? : Char → Option Nat
  | 'x' => some 2
  | 'u' => some 4
  | 'U' => some 8
  | _ => none

/-- Drop what does not count in the names of classes. -/
def normalName (name : List Char) : String :=
  let name := (name.filter fun c => !(c == ' ' || c == '_' || c == '-')).map Text.lowerAscii
  String.ofList (match name with
    | 'i' :: 's' :: c :: rest => c :: rest
    | _ => name)

/-- The characters of the script with a name or a code. -/
def scriptOfName? (name : String) : Option CharSet :=
  (Text.Script.named? fun other => normalName other.toList == name).map fun s => .ranges s.ranges

/-- A class by its name alone: a property, a general category or a script. -/
def classOfBareName? (name : String) : Option CharSet :=
  CharSet.ofPropertyName? name <|> CharSet.ofCategoryName? name <|> scriptOfName? name

/-- A class by its name, alone or as the value of the general category or of
the script. -/
def classOfName? (name : List Char) : Option CharSet :=
  match Text.cutFirst '=' name, Text.cutFirst ':' name with
  | some (key, value), _ | none, some (key, value) =>
      let (key, negated) := match key.getLast? with
        | some '!' => (key.dropLast, true)
        | _ => (key, false)
      let s? := match normalName key with
        | "gc" | "generalcategory" => CharSet.ofCategoryName? (normalName value)
        | "sc" | "script" => scriptOfName? (normalName value)
        | _ => none
      s?.map (CharSet.negateIf negated)
  | none, none => classOfBareName? (normalName name)

/-- A class of Unicode behind its letter: one letter, or a name in braces. -/
def readUnicodeClass? : List Char → Option (CharSet × List Char)
  | '{' :: text => do
      let name := text.takeWhile fun c => c != '}'
      match text.drop name.length with
      | '}' :: rest => return (← classOfName? name, rest)
      | _ => none
  | '\\' :: _ => none
  | c :: rest => do return (← classOfName? [c], rest)
  | [] => none

/-- The class that a letter stands for behind a backslash. -/
def letterClass? : Char → Option CharSet
  | 'd' => some CharSet.digits
  | 'D' => some CharSet.digits.compl
  | 's' => some CharSet.blanks
  | 'S' => some CharSet.blanks.compl
  | 'w' => some CharSet.wordChars
  | 'W' => some CharSet.wordChars.compl
  | _ => none

/-- The control character that a letter stands for behind a backslash. -/
def controlOfLetter? : Char → Option Char
  | 'a' => some '\x07'
  | 'f' => some '\x0c'
  | 'n' => some '\n'
  | 'r' => some '\r'
  | 't' => some '\t'
  | 'v' => some '\x0b'
  | _ => none

/-- Characters other than ASCII letters and digits and angle brackets may be
written behind a backslash to stand for themselves. -/
def isQuotable (c : Char) : Bool :=
  c.toNat < 128 && !(Text.isAsciiLetter c || Text.isAsciiDigit c || c == '<' || c == '>')

/-- What an escape stands for when it stands for characters. -/
inductive Piece where
  | literal (c : Char)
  | set (s : CharSet)

/-- An escape for characters, behind its backslash. -/
def readPiece? : List Char → Option (Piece × List Char)
  | [] => none
  | c :: rest =>
      match codeWidth? c, letterClass? c, controlOfLetter? c with
      | some width, _, _ => (readCode? width rest).map fun (d, rest) => (.literal d, rest)
      | _, some s, _ => some (.set s, rest)
      | _, _, some d => some (.literal d, rest)
      | _, _, _ =>
          if c = 'p' ∨ c = 'P' then
            (readUnicodeClass? rest).map fun (s, rest) => (.set (s.negateIf (c == 'P')), rest)
          else if isQuotable c then some (.literal c, rest)
          else none

/-- A character or a set inside brackets. -/
def readMember? : List Char → Option (Piece × List Char)
  | '\\' :: rest => readPiece? rest
  | c :: rest => some (.literal c, rest)
  | [] => none

/-- The set of a piece. -/
def Piece.toSet (anyCase : Bool) : Piece → CharSet
  | literal c => (CharSet.ofChar c).anyCaseIf anyCase
  | set s => s.anyCaseIf anyCase

/-- A range, or a single character or set.  A dash in front of the closing
bracket or of another dash makes no range. -/
def readRange? (anyCase : Bool) (text : List Char) : Option (CharSet × List Char) := do
  let (piece, rest) ← readMember? text
  match rest with
  | '-' :: next :: more =>
      if next = ']' ∨ next = '-' then return (piece.toSet anyCase, rest)
      else
        let (other, rest) ← readMember? (next :: more)
        match piece, other with
        | .literal first, .literal last =>
            if first ≤ last then
              return ((CharSet.ofRange first last).anyCaseIf anyCase, rest)
            else none
        | _, _ => none
  | _ => return (piece.toSet anyCase, rest)

/-- A class of ASCII by its name between colons, behind the bracket. -/
def readAsciiClass? : List Char → Option (CharSet × List Char)
  | ':' :: text => do
      let (negated, text) := match text with
        | '^' :: rest => (true, rest)
        | _ => (false, text)
      let name := text.takeWhile fun c => c != ':'
      match text.drop name.length with
      | ':' :: ']' :: rest =>
          let s ← CharSet.ofAsciiName? (String.ofList name)
          return (s.negateIf negated, rest)
      | _ => none
  | _ => none

/-- What two sets are joined by. -/
inductive Joint where
  | intersection
  | difference
  | symmetricDifference

def Joint.apply : Joint → CharSet → CharSet → CharSet
  | intersection, s, t => s.inter t
  | difference, s, t => s.diff t
  | symmetricDifference, s, t => s.symmDiff t

/-- The sign of a joint, written twice. -/
def joint? : List Char → Option Joint
  | '&' :: '&' :: _ => some .intersection
  | '-' :: '-' :: _ => some .difference
  | '~' :: '~' :: _ => some .symmetricDifference
  | _ => none

/-- What has been read of a class: the set in front of the last joint, and the
union of what follows it. -/
structure OpenClass where
  left : Option (Joint × CharSet)
  members : CharSet

def OpenClass.close (o : OpenClass) : CharSet :=
  match o.left with
  | none => o.members
  | some (joint, s) => joint.apply s o.members

def OpenClass.add (o : OpenClass) (s : CharSet) : OpenClass :=
  { o with members := o.members.union s }

/-- The start of a class behind its bracket: the sign of negation, dashes, and
a closing bracket that stands for itself. -/
def readClassStart (text : List Char) : Bool × CharSet × List Char :=
  let (negated, text) := match text with
    | '^' :: rest => (true, rest)
    | _ => (false, text)
  let dashes := text.takeWhile fun c => c == '-'
  let rest := text.drop dashes.length
  if dashes.isEmpty then
    match rest with
    | ']' :: rest => (negated, CharSet.ofChar ']', rest)
    | _ => (negated, CharSet.empty, rest)
  else (negated, CharSet.ofChar '-', rest)

/-- The members of a class up to its closing bracket, in at most `fuel` steps. -/
def readClassMembers? (anyCase : Bool) :
    Nat → OpenClass → List Char → Option (CharSet × List Char)
  | 0, _, _ => none
  | fuel + 1, o, text =>
      match text, joint? text with
      | [], _ => none
      | ']' :: rest, _ => some (o.close, rest)
      | '[' :: rest, _ =>
          match readAsciiClass? rest with
          | some (s, rest) =>
              readClassMembers? anyCase fuel (o.add (s.anyCaseIf anyCase)) rest
          | none => do
              let (negated, members, inner) := readClassStart rest
              let (s, rest) ← readClassMembers? anyCase fuel ⟨none, members⟩ inner
              readClassMembers? anyCase fuel (o.add (s.negateIf negated)) rest
      | text, some joint =>
          readClassMembers? anyCase fuel ⟨some (joint, o.close), CharSet.empty⟩ (text.drop 2)
      | text, none => do
          let (s, rest) ← readRange? anyCase text
          readClassMembers? anyCase fuel (o.add s) rest

/-- A class behind its opening bracket. -/
def readClass? (anyCase : Bool) (text : List Char) : Option (CharSet × List Char) := do
  let (negated, members, inner) := readClassStart text
  let (s, rest) ← readClassMembers? anyCase (2 * text.length + 1) ⟨none, members⟩ inner
  return (s.negateIf negated, rest)

end ImageBuild.Pattern
