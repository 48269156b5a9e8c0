import ImageBuild.Schema.Judge
import ImageBuild.Schema.Uri

/-!
# Reading schemas

`Schema.read` takes a JSON value as a schema; it is total, and leaves out
keywords whose values have no meaning.  What such a value lacks for a schema is
listed by `Schema.findings`, in the order in which it counts.
-/

namespace ImageBuild

open Json (Members)

namespace Schema

/-- The parts of a schema in which further schemas stand. -/
inductive Place where
  | schema
  | list
  | schemaOrList
  | named
  | dependent
  | dependency
  | data
deriving DecidableEq

/-- Where schemas stand in the value of a keyword. -/
def placeOf (keyword : String) : Place :=
  if keyword = "properties" ∨ keyword = "patternProperties" ∨ keyword = "definitions" then .named
  else if keyword = "dependencies" then .dependent
  else if keyword = "items" then .schemaOrList
  else if keyword = "additionalProperties" ∨ keyword = "additionalItems" ∨ keyword = "not" then
    .schema
  else if keyword = "allOf" ∨ keyword = "anyOf" ∨ keyword = "oneOf" then .list
  else .data

/-- The URI without a fragment that the references of a schema are seen from.
A schema may name itself; next to a reference its name does not count. -/
def baseOf (base : Uri) (members : Members) : Uri :=
  match Members.get? "$ref" members, Members.get? "id" members with
  | none, some (.string id) =>
      if id.startsWith "#" then base
      else { base.resolve (Uri.ofText id.toList) with fragment := none }
  | _, _ => base

/-- The full text of a reference. -/
def targetOf (base : Uri) (reference : String) : String :=
  match reference.toList with
  | '#' :: fragment => String.ofList ({ base with fragment := some fragment }.toText)
  | text =>
      let u := base.resolve (Uri.ofText text)
      String.ofList ({ u with fragment := some (u.fragment.getD []) }.toText)

/-- The value of a keyword with the schemas that were read from it. -/
inductive Part where
  | data
  | schema (s : Schema)
  | list (ss : List Schema)
  | named (ss : List (String × Schema))

/-- The members of a schema: for each keyword its value and the schemas in it. -/
abbrev Parts := List (String × Json × Part)

namespace Parts

def value? (keyword : String) (parts : Parts) : Option Json :=
  (parts.find? fun (name, _) => name == keyword).map fun (_, value, _) => value

def part (keyword : String) (parts : Parts) : Part :=
  ((parts.find? fun (name, _) => name == keyword).map fun (_, _, part) => part).getD .data

def count? (keyword : String) (parts : Parts) : Option Nat :=
  match parts.value? keyword with
  | some (.number (.int n)) => some n.toNat
  | _ => none

def number? (keyword : String) (parts : Parts) : Option Json.Number :=
  match parts.value? keyword with
  | some (.number n) => some n
  | _ => none

def flag (keyword : String) (parts : Parts) : Bool :=
  ((parts.value? keyword).bind Json.bool?).getD false

/-- Schemas by names, absent when the keyword is. -/
def named? (keyword : String) (parts : Parts) : Option (List (String × Schema)) :=
  match parts.part keyword with
  | .named ss => some ss
  | _ => none

def list? (keyword : String) (parts : Parts) : Option (List Schema) :=
  match parts.part keyword with
  | .list ss => some ss
  | _ => none

end Parts

/-- The types that the keyword for them allows, in their fixed order. -/
def typesOf : Option Json → Option (List JsonType)
  | some (.string s) => some (JsonType.all.filter fun t => t.name == s)
  | some (.array items) =>
      let names := items.filterMap Json.text?
      some (JsonType.all.filter fun t => names.contains t.name)
  | _ => none

/-- The texts of a list. -/
def textsOf : Json → List String
  | .array items => items.filterMap Json.text?
  | _ => []

/-- Schemas with patterns in place of the names. -/
def withPatterns (named : List (String × Schema)) : List (Pattern × Schema) :=
  named.filterMap fun (text, s) => (Pattern.ofText? text.toList).map fun p => (p, s)

/-- The keywords about the members of an object.  A schema or a refusal for the
other members joins them to one. -/
def memberKeywords (parts : Parts) : List Keyword :=
  let named := parts.named? "properties"
  let matched := (parts.named? "patternProperties").map withPatterns
  let apart :=
    (named.map Keyword.properties).toList ++ (matched.map Keyword.patternProperties).toList
  match parts.value? "additionalProperties", parts.part "additionalProperties" with
  | some (.bool false), _ =>
      if named.isNone && matched.isNone then [.noMembers]
      else [.members (named.getD []) (matched.getD []) none]
  | some (.object _), .schema other =>
      [.members (named.getD []) (matched.getD []) (some other)]
  | _, _ => apart

/-- A single required member is asked for behind the other conditions on the
members when these are a closed list. -/
def requiredComesLast (parts : Parts) (names : List String) : Bool :=
  names.length == 1 && (parts.named? "properties").isSome &&
    (parts.named? "patternProperties").isNone &&
    match parts.value? "additionalProperties" with
    | some (.bool false) => true
    | _ => false

/-- The keywords about the items of an array. -/
def itemKeywords (parts : Parts) : List Keyword :=
  match parts.part "items" with
  | .schema each => [.items each]
  | .list first =>
      let others := match parts.value? "additionalItems", parts.part "additionalItems" with
        | some (.bool false), _ => [Keyword.noAdditionalItems first.length]
        | some (.object _), .schema each => [.additionalItems first.length each]
        | _, _ => []
      .itemList first :: others
  | _ => []

/-- The keywords of a schema in the order in which they are judged. -/
def keywordsOf (parts : Parts) : List Keyword :=
  let names := (parts.value? "required").map textsOf
  let required := (names.map Keyword.required).toList
  let last := match names with
    | some names => requiredComesLast parts names
    | none => false
  ((typesOf (parts.value? "type")).map Keyword.type).toList ++
  (match parts.value? "enum" with
    | some (.array values) => [.enum values]
    | _ => []) ++
  ((parts.number? "minimum").map fun n =>
    Keyword.minimum n (parts.flag "exclusiveMinimum")).toList ++
  ((parts.number? "maximum").map fun n =>
    Keyword.maximum n (parts.flag "exclusiveMaximum")).toList ++
  ((parts.number? "multipleOf").map fun n => Keyword.multipleOf n.toDouble).toList ++
  ((parts.count? "minLength").map Keyword.minLength).toList ++
  ((parts.count? "maxLength").map Keyword.maxLength).toList ++
  ((parts.count? "minItems").map Keyword.minItems).toList ++
  ((parts.count? "maxItems").map Keyword.maxItems).toList ++
  ((parts.count? "minProperties").map Keyword.minProperties).toList ++
  ((parts.count? "maxProperties").map Keyword.maxProperties).toList ++
  (if last then [] else required) ++
  (match parts.value? "pattern" with
    | some (.string text) => ((Pattern.ofText? text.toList).map Keyword.pattern).toList
    | _ => []) ++
  (match parts.value? "format" with
    | some (.string name) => ((Format.ofName? name).map Keyword.format).toList
    | _ => []) ++
  (if parts.flag "uniqueItems" then [.uniqueItems] else []) ++
  memberKeywords parts ++
  (if last then required else []) ++
  itemKeywords parts ++
  ((parts.named? "dependencies").map Keyword.dependencies).toList ++
  ((parts.list? "allOf").map Keyword.allOf).toList ++
  ((parts.list? "anyOf").map Keyword.anyOf).toList ++
  ((parts.list? "oneOf").map Keyword.oneOf).toList ++
  (match parts.value? "not", parts.part "not" with
    | some written, .schema s => [.not s written]
    | _, _ => [])

/-- A schema from its parts; a reference hides everything beside it. -/
def ofParts (base : Uri) (parts : Parts) : Schema :=
  match parts.value? "$ref" with
  | some (.string reference) => .all [.reference (targetOf base reference)]
  | some _ => .always
  | none => .all (keywordsOf parts)

/-- The schema that a part is. -/
def Part.toSchema : Part → Schema
  | schema s => s
  | _ => .always

mutual

/-- The schemas in a value at a place.  A list of names where a schema could
stand asks for these members. -/
def readAt (base : Uri) : Place → Json → Part
  | place, .bool b =>
      match place with
      | .schema | .schemaOrList | .dependency => .schema (if b then .always else .never)
      | _ => .data
  | place, .array items =>
      match place with
      | .list | .schemaOrList => .list (readList base items)
      | .dependency => .schema (.all [.required (items.filterMap Json.text?)])
      | _ => .data
  | place, .object members =>
      match place with
      | .schema | .schemaOrList | .dependency =>
          .schema (ofParts (baseOf base members) (readParts (baseOf base members) members))
      | .named => .named (readNamed base .schema members)
      | .dependent => .named (readNamed base .dependency members)
      | _ => .data
  | _, _ => .data
termination_by structural _ value => value

/-- Schemas one after the other. -/
def readList (base : Uri) : List Json → List Schema
  | [] => []
  | value :: rest => (readAt base .schema value).toSchema :: readList base rest
termination_by structural values => values

/-- Schemas by their names. -/
def readNamed (base : Uri) (place : Place) : List (String × Json) → List (String × Schema)
  | [] => []
  | (name, value) :: rest =>
      (name, (readAt base place value).toSchema) :: readNamed base place rest
termination_by structural members => members

/-- The keywords of a schema with what stands in them. -/
def readParts (base : Uri) : List (String × Json) → Parts
  | [] => []
  | (keyword, value) :: rest =>
      (keyword, value, readAt base (placeOf keyword) value) :: readParts base rest
termination_by structural members => members

end

/-- The schema that a value writes, seen from a base. -/
def read (base : Uri) (value : Json) : Schema :=
  (readAt base .schema value).toSchema

/-- Something that has to be looked at before a schema can be used. -/
inductive Finding where
  | reference (target : String)
  | referenceNotText (value : Json)
  | patternUnsound (schema : Json)
  | notSchema (value : Json)

/-- The patterns among the names of members that are none. -/
def unsoundPatterns : Json → List Finding
  | .object members =>
      members.filterMap fun (text, schema) =>
        if (Pattern.ofText? text.toList).isSome then none else some (.patternUnsound schema)
  | _ => []

mutual

/-- The findings in a value at a place. -/
def findingsAt (base : Uri) : Place → Json → List Finding
  | place, .array items =>
      match place with
      | .list | .schemaOrList => listFindings base items
      | .schema => [.notSchema (.array items)]
      | _ => []
  | place, .object members =>
      match place with
      | .schema | .schemaOrList | .dependency =>
          match Members.get? "$ref" members with
          | some (.string reference) =>
              [.reference (targetOf (baseOf base members) reference)]
          | some value => [.referenceNotText value]
          | none => keywordFindings (baseOf base members) members
      | .named => namedFindings base .schema members
      | .dependent => namedFindings base .dependency members
      | _ => []
  | _, .bool _ => []
  | place, value => if place = .schema then [.notSchema value] else []
termination_by structural _ value => value

/-- The findings in schemas one after the other. -/
def listFindings (base : Uri) : List Json → List Finding
  | [] => []
  | value :: rest => findingsAt base .schema value ++ listFindings base rest
termination_by structural values => values

/-- The findings in schemas by their names. -/
def namedFindings (base : Uri) (place : Place) : List (String × Json) → List Finding
  | [] => []
  | (_, value) :: rest => findingsAt base place value ++ namedFindings base place rest
termination_by structural members => members

/-- The findings in the keywords of a schema, in the order of their names.
Definitions are looked at only where a reference leads to them. -/
def keywordFindings (base : Uri) : List (String × Json) → List Finding
  | [] => []
  | (keyword, value) :: rest =>
      (if keyword = "definitions" then []
        else
          (if keyword = "patternProperties" then unsoundPatterns value else []) ++
            findingsAt base (placeOf keyword) value) ++ keywordFindings base rest
termination_by structural members => members

end

/-- The findings in the schema that a value writes. -/
def findings (base : Uri) (value : Json) : List Finding :=
  findingsAt base .schema value

end Schema

end ImageBuild
