import ImageBuild.Json.Printer
import ImageBuild.Schema.Basic
import ImageBuild.Text.Word

/-!
# Violations

What a value may be objected to for, in words, and where in a document the value
stands.
-/

namespace ImageBuild

/-- One step into a document: an object key or an array index. -/
inductive PathElement where
  | key (name : String)
  | index (i : Nat)
deriving DecidableEq, Repr

/-- A way into a document, from the root on. -/
abbrev ViolationPath := List PathElement

/-- A single violation: the way to the offending value and what is wrong. -/
structure Violation where
  path : ViolationPath
  message : String
deriving DecidableEq, Repr

namespace Violation

/-- The written form of one step, a key behind a point. -/
def renderElement : PathElement → List Char
  | .key name => '.' :: name.toList
  | .index i => '[' :: Decimal.natDigits i ++ [']']

/-- A way in writing, as `a.b[0].c`: a point that would stand at its very start
is left out. -/
def renderPath (path : ViolationPath) : String :=
  match path.flatMap renderElement with
  | '.' :: rest => String.ofList rest
  | text => String.ofList text

/-- The way to the offending value in writing. -/
def pathString (v : Violation) : String :=
  renderPath v.path

/-- The violation of a value as one of the document that holds it. -/
def under (steps : ViolationPath) (v : Violation) : Violation :=
  { v with path := steps ++ v.path }

/-- The number that a key is written as: digits, possibly behind a plus sign,
for a number of at most 64 bits. -/
def numberOfKey? (name : String) : Option Nat :=
  let digits := match name.toList with
    | '+' :: rest => rest
    | text => text
  if digits.isEmpty || !digits.all Text.isAsciiDigit then none
  else
    let n := digits.foldl (fun n c => n * 10 + (c.toNat - 48)) 0
    if n < 1 <<< 64 then some n else none

/-- The steps to the member of a name.  A name that is written as a number
counts as an index, and the empty name is no step. -/
def stepsOfKey (name : String) : ViolationPath :=
  if name.isEmpty then []
  else
    match numberOfKey? name with
    | some n => [.index n]
    | none => [.key name]

end Violation

/-- What is wrong with a value. -/
inductive Objection where
  | wrongType (allowed : List JsonType)
  | notListed (values : List Json)
  | belowMinimum (limit : Json.Number) (exclusive : Bool)
  | aboveMaximum (limit : Json.Number) (exclusive : Bool)
  | notMultiple (divisor : Decimal.Double)
  | shorter (count : Nat)
  | longer (count : Nat)
  | fewerItems (count : Nat)
  | moreItems (count : Nat)
  | fewerMembers (count : Nat)
  | moreMembers (count : Nat)
  | memberMissing (name : String)
  | unmatched (pattern : List Char)
  | notFormat (f : Format)
  | repeatedItems
  | unexpectedMembers (names : List String)
  | unexpectedItems (items : List Json)
  | noneOfAny
  | noneOfOne
  | severalOfOne
  | forbidden (schema : Json)
  | neverAllowed

namespace Objection

/-- Texts with a separator between them, and another one before the last. -/
def joinWithOr : List String → String
  | [] => ""
  | [s] => s
  | [s, t] => s!"{s} or {t}"
  | s :: rest => s!"{s}, {joinWithOr rest}"

/-- A count of things; exactly one thing is not in the plural. -/
def countOf (count : Nat) (one many : String) : String :=
  if count = 1 then s!"{count} {one}" else s!"{count} {many}"

/-- Things that were not expected. -/
def unexpected (things : List String) : String :=
  let verb := match things with
    | [_] => "was"
    | _ => "were"
  let list := ", ".intercalate things
  s!"({list} {verb} unexpected)"

/-- Types by their quoted names. -/
def typeNames (allowed : List JsonType) : String :=
  let list := ", ".intercalate (allowed.map fun t => "\"" ++ t.name ++ "\"")
  match allowed with
  | [_] => s!"type {list}"
  | _ => s!"types {list}"

/-- The wording of an objection to a value. -/
def message (value : Json) : Objection → String
  | wrongType allowed => s!"{value.compact} is not of {typeNames allowed}"
  | notListed values => s!"{value.compact} is not one of {joinWithOr (values.map Json.compact)}"
  | belowMinimum limit exclusive =>
      let text := Json.compact (.number limit)
      if exclusive then s!"{value.compact} is less than or equal to the minimum of {text}"
      else s!"{value.compact} is less than the minimum of {text}"
  | aboveMaximum limit exclusive =>
      let text := Json.compact (.number limit)
      if exclusive then s!"{value.compact} is greater than or equal to the maximum of {text}"
      else s!"{value.compact} is greater than the maximum of {text}"
  | notMultiple divisor =>
      s!"{value.compact} is not a multiple of {String.ofList divisor.positional}"
  | shorter n => value.compact ++ " is shorter than " ++ countOf n "character" "characters"
  | longer n => value.compact ++ " is longer than " ++ countOf n "character" "characters"
  | fewerItems n => value.compact ++ " has less than " ++ countOf n "item" "items"
  | moreItems n => value.compact ++ " has more than " ++ countOf n "item" "items"
  | fewerMembers n => value.compact ++ " has less than " ++ countOf n "property" "properties"
  | moreMembers n => value.compact ++ " has more than " ++ countOf n "property" "properties"
  | memberMissing name => s!"{Json.compact (.string name)} is a required property"
  | unmatched pattern => value.compact ++ " does not match \"" ++ String.ofList pattern ++ "\""
  | notFormat f => value.compact ++ " is not a \"" ++ f.name ++ "\""
  | repeatedItems => s!"{value.compact} has non-unique elements"
  | unexpectedMembers names =>
      "Additional properties are not allowed " ++ unexpected (names.map fun n => "'" ++ n ++ "'")
  | unexpectedItems items =>
      "Additional items are not allowed " ++ unexpected (items.map Json.compact)
  | noneOfAny =>
      value.compact ++ " is not valid under any of the schemas listed in the 'anyOf' keyword"
  | noneOfOne =>
      value.compact ++ " is not valid under any of the schemas listed in the 'oneOf' keyword"
  | severalOfOne =>
      value.compact ++
        " is valid under more than one of the schemas listed in the 'oneOf' keyword"
  | forbidden schema => s!"{schema.compact} is not allowed for {value.compact}"
  | neverAllowed => s!"False schema does not allow {value.compact}"

/-- The violation of a whole document that an objection to it is. -/
def toViolation (value : Json) (o : Objection) : Violation :=
  { path := [], message := o.message value }

end Objection

end ImageBuild
