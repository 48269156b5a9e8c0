import ImageBuild.Schema.Draft4
import ImageBuild.Schema.Reader

/-!
# Where references lead

A schema is made of documents with a URI each, and some of its parts may have an
anchor.  A reference is looked up by the URI of the document, and in it by a
pointer or an anchor; documents that are not at hand are not fetched.
-/

namespace ImageBuild.Schema

open Json (Members)

/-- What is noted about the parts of a schema: documents with a URI of their
own, parts with an anchor, and references with the base they are seen from. -/
inductive Note where
  | document (uri : String) (schema : Json)
  | anchor (target : String) (schema : Json)
  | reference (base : Uri) (text : String)

/-- The notes on a single schema. -/
def notesOf (base : Uri) (members : Members) : List Note :=
  let schema := Json.object members
  let own : List Note :=
    match Members.get? "$ref" members, Members.get? "id" members with
    | some (.string text), _ => [.reference base text]
    | none, some (.string id) =>
        if id.startsWith "#" then [.anchor (targetOf base id) schema]
        else [.document (String.ofList (baseOf base members).toText) schema]
    | _, _ => []
  own

mutual

/-- The notes on the schemas in a value at a place. -/
def notesAt (base : Uri) : Place → Json → List Note
  | place, .array items =>
      match place with
      | .list | .schemaOrList => listNotes base items
      | _ => []
  | place, .object members =>
      match place with
      | .schema | .schemaOrList | .dependency =>
          notesOf base members ++ keywordNotes (baseOf base members) members
      | .named => namedNotes base members
      | .dependent => namedNotes base members
      | _ => []
  | _, _ => []
termination_by structural _ value => value

/-- The notes on schemas one after the other. -/
def listNotes (base : Uri) : List Json → List Note
  | [] => []
  | value :: rest => notesAt base .schema value ++ listNotes base rest
termination_by structural values => values

/-- The notes on schemas by their names. -/
def namedNotes (base : Uri) : List (String × Json) → List Note
  | [] => []
  | (_, value) :: rest => notesAt base .schema value ++ namedNotes base rest
termination_by structural members => members

/-- The notes on the keywords of a schema. -/
def keywordNotes (base : Uri) : List (String × Json) → List Note
  | [] => []
  | (keyword, value) :: rest =>
      notesAt base (placeOf keyword) value ++ keywordNotes base rest
termination_by structural members => members

end

/-- Why a schema cannot be used. -/
inductive Fault where
  | violation (message : String)
  | notReference (text : String) (flaw : Uri.Flaw)
  | unreachable (uri reason : String)
  | nowhere (pointer : String)
  | noIndex (pointer step : String)
  | undecodable (pointer : String)
  | anchorUnknown (name : String)
  | anchorUnsound (name : String)
  | referenceNotText (value : Json)
  | patternUnsound (schema : Json)
  | notSchema (value : Json)

/-- The wording of a fault. -/
def Fault.message : Fault → String
  | violation message => message
  | notReference text flaw => s!"Invalid URI reference '{text}': {flaw.message}"
  | unreachable uri reason =>
      s!"Resource '{uri}' is not present in a registry and retrieving it failed: {reason}"
  | nowhere pointer => s!"Pointer '{pointer}' does not exist"
  | noIndex pointer step => s!"Failed to parse array index '{step}' in pointer '{pointer}'"
  | undecodable pointer =>
      s!"Invalid percent encoding in pointer '{pointer}': " ++
        "the decoded bytes do not represent valid UTF-8"
  | anchorUnknown name => s!"Anchor '{name}' does not exist"
  | anchorUnsound name => s!"Anchor '{name}' is invalid"
  | referenceNotText value => Objection.message value (.wrongType [.string])
  | patternUnsound schema => Objection.message schema (.notFormat .regex)
  | notSchema value => Objection.message value (.wrongType [.boolean, .object])

/-- The documents and anchored parts of a schema. -/
structure Resources where
  documents : List (String × Json)
  anchors : List (String × Json)

/-- The URI of a schema that does not name itself. -/
def defaultBase : Uri := Uri.ofText "json-schema:///".toList

/-- The resources that a schema consists of, with the schema of schemas. -/
def Resources.ofNotes (root : Json) (notes : List Note) : Resources :=
  let own := String.ofList defaultBase.toText
  { documents :=
      (own, root) :: notes.filterMap (fun note => match note with
        | .document uri schema => some (uri, schema)
        | _ => none) ++ [(draft4Uri, draft4)]
    anchors := notes.filterMap fun note => match note with
      | .anchor target schema => some (target, schema)
      | _ => none }

/-- Why a document with a URI cannot be fetched. -/
def refusalFor (uri : Uri) : String :=
  match uri.scheme.map String.ofList with
  | some "http" | some "https" =>
      "\x60resolve-http\x60 feature or a custom resolver is required to resolve external " ++
        "schemas via HTTP"
  | some "file" =>
      "\x60resolve-file\x60 feature or a custom resolver is required to resolve external " ++
        "schemas via files"
  | some scheme => s!"Unknown scheme {scheme}"
  | none => "Unknown scheme"

/-- Every reference of a schema is well formed and leads to a document at
hand. -/
def Resources.checkReferences (r : Resources) : List Note → Except Fault Unit
  | [] => .ok ()
  | .reference base text :: rest =>
      match Uri.flaw? 0 false text.toList with
      | some flaw => .error (.notReference text flaw)
      | none =>
          if text.startsWith "#" then r.checkReferences rest
          else
            let uri := { base.resolve (Uri.ofText text.toList) with fragment := none }
            let name := String.ofList uri.toText
            if r.documents.any fun (other, _) => other == name then r.checkReferences rest
            else .error (.unreachable name (refusalFor uri))
  | _ :: rest => r.checkReferences rest

/-- Follow the steps of a pointer from a value on.  Gives the base that the
value at its end is seen from. -/
def followPointer (pointer : String) : Uri → Json → List (List Char) → Except Fault (Uri × Json)
  | base, value, [] => .ok (base, value)
  | base, .array items, step :: rest =>
      match Format.number? step with
      | none => .error (.noIndex pointer (String.ofList step))
      | some i =>
          match items[i]? with
          | some item => followPointer pointer base item rest
          | none => .error (.nowhere pointer)
  | base, .object members, step :: rest =>
      match Members.get? (String.ofList (Uri.unescapeStep step)) members with
      | some value => followPointer pointer (baseOf base members) value rest
      | none => .error (.nowhere pointer)
  | _, _, _ :: _ => .error (.nowhere pointer)

/-- The value that a reference leads to, and the base it is seen from. -/
def Resources.find (r : Resources) (target : String) : Except Fault (Uri × Json) := do
  let (name, fragment) := Uri.cutOff '#' target.toList
  let base := Uri.ofText name
  match r.documents.find? fun (other, _) => other == String.ofList name with
  | none => throw (.unreachable (String.ofList name) (refusalFor base))
  | some (_, document) =>
      match fragment.getD [] with
      | [] => return (base, document)
      | '/' :: path =>
          let pointer := String.ofList ('/' :: path)
          match Uri.decodeOctets? path with
          | some path => followPointer pointer base document (Text.splitOn '/' path)
          | none => throw (.undecodable pointer)
      | anchor =>
          match r.anchors.find? fun (other, _) => other == target with
          | some (_, value) => return (base, value)
          | none =>
              let name := String.ofList anchor
              throw (if anchor.contains '/' then .anchorUnsound name else .anchorUnknown name)

end ImageBuild.Schema
