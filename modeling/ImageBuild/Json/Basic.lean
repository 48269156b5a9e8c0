import ImageBuild.Decimal.Double
import ImageBuild.OrderedMap

/-!
# JSON values

The values that documents and schemas consist of.  Integers and doubles are
kept apart, so that `1` and `1.0` differ as values although they are equal as
numbers.  The members of an object are kept in ascending order of their names,
each name once; `Members.insert` is the one way in which objects grow.
-/

namespace ImageBuild

open Decimal (Double)

namespace Json

/-- An integer, or a double. -/
inductive Number where
  | int (n : Int)
  | double (d : Double)
deriving DecidableEq, Repr

end Json

/-- A JSON value. -/
inductive Json where
  | null
  | bool (b : Bool)
  | number (n : Json.Number)
  | string (s : String)
  | array (items : List Json)
  | object (members : List (String × Json))
deriving Repr

namespace Json

/-- The members of an object. -/
abbrev Members := List (String × Json)

/-- Put a member at its place in ascending order, replacing one of the same
name. -/
def Members.insert (name : String) (value : Json) (members : Members) : Members :=
  insertEntry name value members

/-- The members of a list of pairs, later pairs winning. -/
def Members.ofList (pairs : List (String × Json)) : Members :=
  pairs.foldl (fun members (name, value) => Members.insert name value members) []

/-- The value of the member of a name. -/
def Members.get? (name : String) (members : Members) : Option Json :=
  lookUpEntry name members

/-- A natural number as a value. -/
def ofNat (n : Nat) : Json := .number (.int n)

/-- An object from pairs in any order. -/
def ofPairs (pairs : List (String × Json)) : Json :=
  .object (Members.ofList pairs)

/-- An optional text; absence is null. -/
def ofText? : Option String → Json
  | some s => .string s
  | none => .null

/-- The member of a name, when the value is an object that has it. -/
def get? (name : String) : Json → Option Json
  | .object members => Members.get? name members
  | _ => none

def text? : Json → Option String
  | .string s => some s
  | _ => none

def items? : Json → Option (List Json)
  | .array items => some items
  | _ => none

def members? : Json → Option Members
  | .object members => some members
  | _ => none

def bool? : Json → Option Bool
  | .bool b => some b
  | _ => none

namespace Number

/-- A number as a signed numerator over a positive denominator. -/
def quotient : Number → Int × Nat
  | int n => (n, 1)
  | double d => d.signedQuotient

/-- Order of numbers by value. -/
def lt (a b : Number) : Bool :=
  let (n, d) := a.quotient
  let (m, e) := b.quotient
  n * e < m * d

/-- Equality of numbers by value. -/
def sameValue (a b : Number) : Bool :=
  let (n, d) := a.quotient
  let (m, e) := b.quotient
  n * e == m * d

end Number

mutual

/-- Equality of values, with numbers compared by value. -/
def sameValue : Json → Json → Bool
  | .null, .null => true
  | .bool a, .bool b => a == b
  | .number a, .number b => a.sameValue b
  | .string a, .string b => a == b
  | .array xs, .array ys => sameItems xs ys
  | .object xs, .object ys => sameMembers xs ys
  | _, _ => false

/-- Equality of lists of values, item by item. -/
def sameItems : List Json → List Json → Bool
  | [], [] => true
  | x :: xs, y :: ys => sameValue x y && sameItems xs ys
  | _, _ => false

/-- Equality of objects, member by member. -/
def sameMembers : List (String × Json) → List (String × Json) → Bool
  | [], [] => true
  | (a, x) :: xs, (b, y) :: ys => a == b && sameValue x y && sameMembers xs ys
  | _, _ => false

end

mutual

/-- The number of arrays and objects around the deepest value. -/
def depth : Json → Nat
  | .array items => itemsDepth items + 1
  | .object members => membersDepth members + 1
  | _ => 0

def itemsDepth : List Json → Nat
  | [] => 0
  | x :: xs => max (depth x) (itemsDepth xs)

def membersDepth : List (String × Json) → Nat
  | [] => 0
  | (_, x) :: xs => max (depth x) (membersDepth xs)

end

end Json

end ImageBuild
