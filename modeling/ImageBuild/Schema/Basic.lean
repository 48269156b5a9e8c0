import ImageBuild.Json.Basic
import ImageBuild.Pattern.Dialect

/-!
# Schemas

A JSON schema of draft 4 as a tree of keywords.  The keywords of a schema are
kept in the order in which they are judged, and members that one keyword leaves
to another are already joined with it.
-/

namespace ImageBuild

/-- The types of JSON values.  An integer is a number, too. -/
inductive JsonType where
  | array
  | boolean
  | integer
  | null
  | number
  | object
  | string
deriving DecidableEq, Repr

namespace JsonType

/-- All types in the order in which they are listed. -/
def all : List JsonType :=
  [array, boolean, integer, null, number, object, string]

def name : JsonType → String
  | array => "array"
  | boolean => "boolean"
  | integer => "integer"
  | null => "null"
  | number => "number"
  | object => "object"
  | string => "string"

def ofName? (s : String) : Option JsonType :=
  all.find? fun t => t.name == s

/-- A value is of a type.  A double is no integer, whatever its value. -/
def admits : JsonType → Json → Bool
  | array, .array _ => true
  | boolean, .bool _ => true
  | integer, .number (.int _) => true
  | null, .null => true
  | number, .number _ => true
  | object, .object _ => true
  | string, .string _ => true
  | _, _ => false

end JsonType

/-- The named formats of strings that are checked. -/
inductive Format where
  | date
  | dateTime
  | email
  | hostname
  | idnEmail
  | ipv4
  | ipv6
  | regex
  | time
  | uri
deriving DecidableEq, Repr

namespace Format

def all : List Format :=
  [date, dateTime, email, hostname, idnEmail, ipv4, ipv6, regex, time, uri]

def name : Format → String
  | date => "date"
  | dateTime => "date-time"
  | email => "email"
  | hostname => "hostname"
  | idnEmail => "idn-email"
  | ipv4 => "ipv4"
  | ipv6 => "ipv6"
  | regex => "regex"
  | time => "time"
  | uri => "uri"

def ofName? (s : String) : Option Format :=
  all.find? fun f => f.name == s

end Format

mutual

/-- A schema: one that accepts all values, one that accepts none, or keywords
that all have to be met. -/
inductive Schema where
  | always
  | never
  | all (keywords : List Keyword)

/-- One condition on a value.  `members` judges each member by its name, by the
patterns that match its name, and by `other` if neither applies; without `other`
such members are refused. -/
inductive Keyword where
  | type (allowed : List JsonType)
  | enum (values : List Json)
  | minimum (limit : Json.Number) (exclusive : Bool)
  | maximum (limit : Json.Number) (exclusive : Bool)
  | multipleOf (divisor : Decimal.Double)
  | minLength (count : Nat)
  | maxLength (count : Nat)
  | minItems (count : Nat)
  | maxItems (count : Nat)
  | minProperties (count : Nat)
  | maxProperties (count : Nat)
  | required (names : List String)
  | pattern (p : Pattern)
  | format (f : Format)
  | uniqueItems
  | properties (named : List (String × Schema))
  | patternProperties (matched : List (Pattern × Schema))
  | members (named : List (String × Schema)) (matched : List (Pattern × Schema))
      (other : Option Schema)
  | noMembers
  | items (each : Schema)
  | itemList (first : List Schema)
  | additionalItems (start : Nat) (each : Schema)
  | noAdditionalItems (start : Nat)
  | dependencies (named : List (String × Schema))
  | allOf (schemas : List Schema)
  | anyOf (schemas : List Schema)
  | oneOf (schemas : List Schema)
  | not (schema : Schema) (written : Json)
  | reference (target : String)

end

end ImageBuild
