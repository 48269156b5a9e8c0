import ImageBuild.Schema.Resource

/-!
# Validators

A schema that is ready for use: it is known to be a schema, and the schemas that
its references lead to are at hand.  `Validator.ofJson` makes one, and
`Validator.violations` lists the violations of a value.
-/

namespace ImageBuild

open Schema

/-- A schema with the schemas that its references stand for. -/
structure Validator where
  root : Schema
  targets : List (String × Schema)

namespace Validator

/-- What a reference stands for, following at most `fuel` references.  A
reference that is already being followed at the same value adds nothing. -/
def oracle (targets : List (String × Schema)) : Nat → Oracle
  | 0, _, _, _ => []
  | fuel + 1, seen, target, value =>
      if seen.contains target then []
      else
        match targets.find? fun (other, _) => other == target with
        | some (_, s) => s.violations (oracle targets fuel) (target :: seen) value
        | none => []

/-- The violations of a value.  At each depth of the value every reference is
followed at most once, which bounds the number of references in a row. -/
def violations (v : Validator) (value : Json) : List Violation :=
  v.root.violations (oracle v.targets ((value.depth + 1) * (v.targets.length + 1))) [] value

/-- A value without violations. -/
def isValid (v : Validator) (value : Json) : Bool :=
  (v.violations value).isEmpty

/-- Look at findings one by one, following each reference once, and gather the
schemas that references lead to. -/
def gather (r : Resources) :
    Nat → List (String × Schema) → List Finding → Except Fault (List (String × Schema))
  | 0, targets, _ => .ok targets
  | _, targets, [] => .ok targets
  | fuel + 1, targets, finding :: rest =>
      match finding with
      | .referenceNotText value => .error (.referenceNotText value)
      | .patternUnsound schema => .error (.patternUnsound schema)
      | .notSchema value => .error (.notSchema value)
      | .reference target =>
          if targets.any fun (other, _) => other == target then gather r fuel targets rest
          else do
            let (base, value) ← r.find target
            gather r fuel ((target, Schema.read base value) :: targets)
              (Schema.findings base value ++ rest)

mutual

/-- The number of values that a value consists of. -/
def valueCount : Json → Nat
  | .array items => itemsCount items + 1
  | .object members => membersCount members + 1
  | _ => 1

def itemsCount : List Json → Nat
  | [] => 0
  | x :: xs => valueCount x + itemsCount xs

def membersCount : List (String × Json) → Nat
  | [] => 0
  | (_, x) :: xs => valueCount x + membersCount xs

end

/-- A validator without a check that the value is a schema. -/
def ofSchema (r : Resources) (base : Uri) (value : Json) : Except Fault Validator := do
  let count := valueCount value + valueCount draft4 + 1
  let targets ← gather r (count * count) [] (Schema.findings base value)
  return { root := Schema.read base value, targets }

/-- The validator of schemas. -/
def draft4 : Validator :=
  let base := Uri.ofText draft4Uri.toList
  match ofSchema (Resources.ofNotes Schema.draft4 []) base Schema.draft4 with
  | .ok v => v
  | .error _ => { root := .never, targets := [] }

/-- The validator that a value writes.  Its references have to be reachable, it
has to be a schema, and what its references lead to has to be one. -/
def ofJson (value : Json) : Except Fault Validator := do
  let notes := notesAt defaultBase .schema value
  let r := Resources.ofNotes value notes
  r.checkReferences notes
  match value, draft4.violations value with
  | .bool _, _ | _, [] => pure ()
  | _, first :: _ => throw (.violation first.message)
  ofSchema r defaultBase value

end Validator

end ImageBuild
