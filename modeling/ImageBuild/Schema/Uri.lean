import ImageBuild.Schema.Format

/-!
# References to schemas

URIs as schemas use them: their parts, the resolution of a relative reference
against a base, and the pointers into documents that stand in fragments.
-/

namespace ImageBuild

/-- A URI reference by its parts. -/
structure Uri where
  scheme : Option (List Char)
  authority : Option (List Char)
  path : List Char
  query : Option (List Char)
  fragment : Option (List Char)
deriving DecidableEq, Repr

namespace Uri

/-- Cut a text at a separator, where there is one. -/
def cutOff (separator : Char) (text : List Char) : List Char × Option (List Char) :=
  match Text.cutFirst separator text with
  | some (before, after) => (before, some after)
  | none => (text, none)

/-- The parts of a reference. -/
def ofText (text : List Char) : Uri :=
  let (text, fragment) := cutOff '#' text
  let (text, query) := cutOff '?' text
  let (scheme, text) := match Text.cutFirst ':' text with
    | some (scheme, rest) => if Format.isScheme scheme then (some scheme, rest) else (none, text)
    | none => (none, text)
  match text with
  | '/' :: '/' :: rest =>
      { scheme, query, fragment
        authority := some (rest.takeWhile fun c => c != '/')
        path := rest.dropWhile fun c => c != '/' }
  | path => { scheme, authority := none, path, query, fragment }

/-- A reference in writing. -/
def toText (u : Uri) : List Char :=
  (match u.scheme with
    | some scheme => scheme ++ [':']
    | none => []) ++
  (match u.authority with
    | some authority => '/' :: '/' :: authority
    | none => []) ++
  u.path ++
  (match u.query with
    | some query => '?' :: query
    | none => []) ++
  (match u.fragment with
    | some fragment => '#' :: fragment
    | none => [])

/-- Leave out the steps of a path that stay or go back, given its parts. -/
def withoutDots : List (List Char) → List (List Char) → List (List Char)
  | done, [] => done.reverse
  | done, ['.'] :: [] => ([] :: done).reverse
  | done, ['.', '.'] :: [] => ([] :: done.tail).reverse
  | done, ['.'] :: rest => withoutDots done rest
  | done, ['.', '.'] :: rest => withoutDots done.tail rest
  | done, step :: rest => withoutDots (step :: done) rest

/-- A path without steps that stay or go back. -/
def normalPath (path : List Char) : List Char :=
  match path with
  | '/' :: rest =>
      '/' :: ['/'].intercalate (withoutDots [] (Text.splitOn '/' rest))
  | _ => path

/-- The path that a relative one stands for behind a base. -/
def mergePath (base : Uri) (path : List Char) : List Char :=
  if base.authority.isSome && base.path.isEmpty then '/' :: path
  else
    match Text.cutLast '/' base.path with
    | some (front, _) => front ++ '/' :: path
    | none => path

/-- A reference as seen from a base. -/
def resolve (base u : Uri) : Uri :=
  match u.scheme, u.authority with
  | some _, _ => { u with path := normalPath u.path }
  | none, some _ => { u with scheme := base.scheme, path := normalPath u.path }
  | none, none =>
      let whole := { u with scheme := base.scheme, authority := base.authority }
      if u.path.isEmpty then
        { whole with path := base.path, query := u.query.or base.query }
      else if u.path.head? = some '/' then { whole with path := normalPath u.path }
      else { whole with path := normalPath (mergePath base u.path) }

/-- What makes a text no reference, with its offset in bytes. -/
inductive Flaw where
  | unexpectedChar (offset : Nat)
  | invalidOctet (offset : Nat)
deriving DecidableEq, Repr

def Flaw.message : Flaw → String
  | unexpectedChar offset => s!"unexpected character at index {offset}"
  | invalidOctet offset => s!"invalid percent-encoded octet at index {offset}"

/-- The characters that may stand in a reference, apart from octets that are
written with a percent sign and the sign of the fragment. -/
def isAllowed (c : Char) : Bool :=
  Format.isUnreserved c || Format.isSubDelimiter c || [':', '@', '/', '?'].contains c

/-- The first flaw of a text as a reference. -/
def flaw? : Nat → Bool → List Char → Option Flaw
  | _, _, [] => none
  | offset, inFragment, '%' :: rest =>
      match rest with
      | a :: b :: more =>
          if (Json.hexValue? a).isSome ∧ (Json.hexValue? b).isSome then
            flaw? (offset + 3) inFragment more
          else some (.invalidOctet offset)
      | _ => some (.invalidOctet offset)
  | offset, inFragment, c :: rest =>
      if c = '#' ∧ inFragment = false then flaw? (offset + 1) true rest
      else if isAllowed c then flaw? (offset + 1) inFragment rest
      else some (.unexpectedChar offset)

/-- A text with the octets put in that are written with a percent sign, unless
they make no text. -/
def decodeOctets? (text : List Char) : Option (List Char) :=
  (String.fromUTF8? ⟨(go text).toArray⟩).map String.toList
where
  go : List Char → List UInt8
    | '%' :: a :: b :: rest =>
        match Json.hexValue? a, Json.hexValue? b with
        | some m, some n => (m * 16 + n).toUInt8 :: go rest
        | _, _ => '%'.toNat.toUInt8 :: go (a :: b :: rest)
    | c :: rest => (String.singleton c).toUTF8.toList ++ go rest
    | [] => []

/-- One step of a pointer with its escapes resolved. -/
def unescapeStep : List Char → List Char
  | '~' :: '1' :: rest => '/' :: unescapeStep rest
  | '~' :: '0' :: rest => '~' :: unescapeStep rest
  | c :: rest => c :: unescapeStep rest
  | [] => []

end Uri

end ImageBuild
