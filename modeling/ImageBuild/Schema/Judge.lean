import ImageBuild.Schema.Format
import ImageBuild.Schema.Violation

/-!
# Judging values by schemas

`Schema.violations` lists what a schema objects to in a value, in the order of
its keywords.  What a reference stands for is a parameter, `Oracle`: it is asked
with the references that are already being followed at the same value, and gives
the violations by the schema referred to.
-/

namespace ImageBuild

open Decimal (Double)

/-- The violations of a value by the schema that a reference stands for, given
the references followed at this value so far. -/
abbrev Oracle := List String → String → Json → List Violation

/-- A quotient of integers divides to an integer. -/
def dividesEvenly (num den : Nat × Nat) : Bool :=
  let top := num.1 * den.2
  let bottom := num.2 * den.1
  bottom != 0 && top % bottom == 0

/-- The decimal number of a double's shortest digits as a quotient. -/
def decimalQuotient (d : Double) : Nat × Nat :=
  let s := d.shortest
  if 0 ≤ s.exponent then (s.digits * Nat.pow 10 s.exponent.toNat, 1)
  else (s.digits, Nat.pow 10 (-s.exponent).toNat)

/-- The double that a number is or is nearest to. -/
def Json.Number.toDouble (n : Json.Number) : Double :=
  match n with
  | .int i => (Double.ofInt? i).getD (Double.zero false)
  | .double d => d

/-- A number is a multiple of a positive one.  By a whole number the doubles
themselves are divided, and by any other the decimals that stand for them; of
the latter no number below the divisor but zero is a multiple. -/
def isMultiple (n : Json.Number) (divisor : Double) : Bool :=
  let value := n.toDouble
  if divisor.isInteger then dividesEvenly value.quotient divisor.quotient
  else if value.isZero then true
  else if Json.Number.lt (.double value) (.double divisor) then false
  else dividesEvenly (decimalQuotient value) (decimalQuotient divisor)

/-- No two items of a list are the same. -/
def allDifferent : List Json → Bool
  | [] => true
  | x :: rest => !(rest.any fun y => x.sameValue y) && allDifferent rest

/-- Objections to a value, if a condition fails. -/
def objectUnless (ok : Bool) (value : Json) (o : Objection) : List Violation :=
  if ok then [] else [o.toViolation value]

/-- Violations of a member. -/
def underKey (name : String) (vs : List Violation) : List Violation :=
  vs.map (Violation.under (Violation.stepsOfKey name))

/-- Violations of an item. -/
def underIndex (i : Nat) (vs : List Violation) : List Violation :=
  vs.map (Violation.under [.index i])

/-- The violations of items from an index on, each judged alike. -/
def eachItem (judge : Json → List Violation) : Nat → List Json → List Violation
  | _, [] => []
  | i, x :: rest => underIndex i (judge x) ++ eachItem judge (i + 1) rest

mutual

/-- What a schema objects to in a value. -/
def Schema.violations (refs : Oracle) (seen : List String) : Schema → Json → List Violation
  | .always, _ => []
  | .never, value => [Objection.neverAllowed.toViolation value]
  | .all keywords, value => Keyword.listViolations refs seen keywords value
termination_by structural s => s

/-- What one keyword objects to in a value. -/
def Keyword.violations (refs : Oracle) (seen : List String) : Keyword → Json → List Violation
  | .type allowed, value =>
      objectUnless (allowed.any fun t => t.admits value) value (.wrongType allowed)
  | .enum values, value =>
      objectUnless (values.any fun v => v.sameValue value) value (.notListed values)
  | .minimum limit exclusive, value =>
      match value with
      | .number n =>
          objectUnless (if exclusive then limit.lt n else !n.lt limit) value
            (.belowMinimum limit exclusive)
      | _ => []
  | .maximum limit exclusive, value =>
      match value with
      | .number n =>
          objectUnless (if exclusive then n.lt limit else !limit.lt n) value
            (.aboveMaximum limit exclusive)
      | _ => []
  | .multipleOf divisor, value =>
      match value with
      | .number n => objectUnless (isMultiple n divisor) value (.notMultiple divisor)
      | _ => []
  | .minLength n, value =>
      match value with
      | .string s => objectUnless (n ≤ s.length) value (.shorter n)
      | _ => []
  | .maxLength n, value =>
      match value with
      | .string s => objectUnless (s.length ≤ n) value (.longer n)
      | _ => []
  | .minItems n, value =>
      match value with
      | .array xs => objectUnless (n ≤ xs.length) value (.fewerItems n)
      | _ => []
  | .maxItems n, value =>
      match value with
      | .array xs => objectUnless (xs.length ≤ n) value (.moreItems n)
      | _ => []
  | .minProperties n, value =>
      match value with
      | .object ms => objectUnless (n ≤ ms.length) value (.fewerMembers n)
      | _ => []
  | .maxProperties n, value =>
      match value with
      | .object ms => objectUnless (ms.length ≤ n) value (.moreMembers n)
      | _ => []
  | .required names, value =>
      match value with
      | .object ms =>
          names.flatMap fun name =>
            objectUnless (ms.any fun (other, _) => other == name) value (.memberMissing name)
      | _ => []
  | .pattern p, value =>
      match value with
      | .string s => objectUnless (p.node.foundIn s.toList) value (.unmatched p.shown)
      | _ => []
  | .format f, value =>
      match value with
      | .string s => objectUnless (f.admits s.toList) value (.notFormat f)
      | _ => []
  | .uniqueItems, value =>
      match value with
      | .array xs => objectUnless (allDifferent xs) value .repeatedItems
      | _ => []
  | .properties named, value =>
      match value with
      | .object ms => Schema.propertyViolations refs named ms
      | _ => []
  | .patternProperties matched, value =>
      match value with
      | .object ms => Schema.matchedViolations refs matched ms
      | _ => []
  | .members named matched other, value =>
      match value with
      | .object ms =>
          let claimed (name : String) : Bool :=
            (named.any fun (n, _) => n == name) ||
              matched.any fun (p, _) => p.node.foundIn name.toList
          let own := ms.flatMap fun (name, x) =>
            Schema.propertyViolations refs named [(name, x)] ++
              Schema.matchedViolations refs matched [(name, x)] ++
              if claimed name then []
              else Schema.optionalViolations refs other name x
          let unclaimed := (ms.filter fun (name, _) => !claimed name).map Prod.fst
          own ++
            if other.isSome || unclaimed.isEmpty then []
            else [(Objection.unexpectedMembers unclaimed).toViolation value]
      | _ => []
  | .noMembers, value =>
      match value with
      | .object ((_, x) :: _) =>
          [{ path := [], message := Objection.neverAllowed.message x }]
      | _ => []
  | .items each, value =>
      match value with
      | .array xs => eachItem (Schema.violations refs [] each) 0 xs
      | _ => []
  | .itemList first, value =>
      match value with
      | .array xs => Schema.positionalViolations refs first 0 xs
      | _ => []
  | .additionalItems start each, value =>
      match value with
      | .array xs => eachItem (Schema.violations refs [] each) start (xs.drop start)
      | _ => []
  | .noAdditionalItems start, value =>
      match value with
      | .array xs =>
          objectUnless (xs.length ≤ start) value (.unexpectedItems (xs.drop start))
      | _ => []
  | .dependencies named, value =>
      match value with
      | .object ms => Schema.dependentViolations refs seen named ms value
      | _ => []
  | .allOf schemas, value => (Schema.eachViolations refs seen schemas value).flatten
  | .anyOf schemas, value =>
      objectUnless ((Schema.eachViolations refs seen schemas value).any List.isEmpty) value
        .noneOfAny
  | .oneOf schemas, value =>
      match (Schema.eachViolations refs seen schemas value).countP List.isEmpty with
      | 0 => [Objection.noneOfOne.toViolation value]
      | 1 => []
      | _ => [Objection.severalOfOne.toViolation value]
  | .not schema written, value =>
      objectUnless (!(Schema.violations refs seen schema value).isEmpty) value
        (.forbidden written)
  | .reference target, value => refs seen target value
termination_by structural k => k

/-- What some keywords object to, one after the other. -/
def Keyword.listViolations (refs : Oracle) (seen : List String) :
    List Keyword → Json → List Violation
  | [], _ => []
  | k :: rest, value =>
      Keyword.violations refs seen k value ++ Keyword.listViolations refs seen rest value
termination_by structural ks => ks

/-- What each of some schemas objects to. -/
def Schema.eachViolations (refs : Oracle) (seen : List String) :
    List Schema → Json → List (List Violation)
  | [], _ => []
  | s :: rest, value =>
      Schema.violations refs seen s value :: Schema.eachViolations refs seen rest value
termination_by structural ss => ss

/-- What schemas object to in the members that they are named for. -/
def Schema.propertyViolations (refs : Oracle) :
    List (String × Schema) → Json.Members → List Violation
  | [], _ => []
  | (name, s) :: rest, ms =>
      (match Json.Members.get? name ms with
        | some x => underKey name (Schema.violations refs [] s x)
        | none => []) ++ Schema.propertyViolations refs rest ms
termination_by structural named => named

/-- What schemas object to in the members whose names their patterns match. -/
def Schema.matchedViolations (refs : Oracle) :
    List (Pattern × Schema) → Json.Members → List Violation
  | [], _ => []
  | (p, s) :: rest, ms =>
      (ms.flatMap fun (name, x) =>
        if p.node.foundIn name.toList then underKey name (Schema.violations refs [] s x)
        else []) ++ Schema.matchedViolations refs rest ms
termination_by structural matched => matched

/-- What a schema for the other members, if there is one, objects to in one. -/
def Schema.optionalViolations (refs : Oracle) :
    Option Schema → String → Json → List Violation
  | none, _, _ => []
  | some s, name, x => underKey name (Schema.violations refs [] s x)
termination_by structural s => s

/-- What schemas object to in the items at their positions. -/
def Schema.positionalViolations (refs : Oracle) :
    List Schema → Nat → List Json → List Violation
  | [], _, _ => []
  | s :: rest, i, xs =>
      match xs with
      | [] => []
      | x :: xs =>
          underIndex i (Schema.violations refs [] s x) ++
            Schema.positionalViolations refs rest (i + 1) xs
termination_by structural ss => ss

/-- What schemas object to in a value that has the members they depend on. -/
def Schema.dependentViolations (refs : Oracle) (seen : List String) :
    List (String × Schema) → Json.Members → Json → List Violation
  | [], _, _ => []
  | (name, s) :: rest, ms, value =>
      (if ms.any fun (other, _) => other == name then Schema.violations refs seen s value
        else []) ++ Schema.dependentViolations refs seen rest ms value
termination_by structural named => named

end

end ImageBuild
