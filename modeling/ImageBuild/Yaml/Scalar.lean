import ImageBuild.Json.Basic
import ImageBuild.Json.Reader
import ImageBuild.Yaml.Fault

/-!
# The values of scalars

A plain scalar is null, a Boolean, an integer or a float when it is spelled as
one, and a text otherwise; infinities and the number that is none have no JSON
value and become null.  A tag of the core types asks for one of these spellings.
-/

namespace ImageBuild.Yaml

open Decimal (Double)
open Json (hexValue?)

/-- The spellings of null, apart from the empty one. -/
def isNullText (s : List Char) : Bool :=
  ["~", "null", "Null", "NULL"].contains (String.ofList s)

/-- The spellings of the two Booleans. -/
def boolOfText? (s : List Char) : Option Bool :=
  let text := String.ofList s
  if ["true", "True", "TRUE"].contains text then some true
  else if ["false", "False", "FALSE"].contains text then some false
  else none

/-- The value of digits to a base of at most sixteen; there is at least one. -/
def natOfDigits? (base : Nat) : List Char → Option Nat
  | [] => none
  | digits =>
      digits.foldlM (fun n c => do
        let d ← hexValue? c
        if d < base then return n * base + d else none) 0

/-- Two or more digits with a zero in front, behind at most one sign, spell no
number. -/
def isPaddedDigits (s : List Char) : Bool :=
  let digits := match s with
    | c :: rest => if c = '+' ∨ c = '-' then rest else c :: rest
    | [] => []
  match digits with
  | '0' :: rest => !rest.isEmpty && rest.all fun c => '0' ≤ c && c ≤ '9'
  | _ => false

/-- The base that a letter behind a zero announces. -/
def baseOfLetter? : Char → Option Nat
  | 'x' => some 16
  | 'o' => some 8
  | 'b' => some 2
  | _ => none

/-- The value of digits in the base that they announce themselves. -/
def natOfText? : List Char → Option Nat
  | '0' :: letter :: digits =>
      match baseOfLetter? letter with
      | some base => natOfDigits? base digits
      | none => natOfDigits? 10 ('0' :: letter :: digits)
  | digits => natOfDigits? 10 digits

/-- The integer that a text spells. -/
def intOfText? (s : List Char) : Option Int :=
  if isPaddedDigits s then none
  else
    match s with
    | '-' :: digits => (natOfText? digits).map fun n => -(n : Int)
    | '+' :: digits => (natOfText? digits).map Int.ofNat
    | digits => (natOfText? digits).map Int.ofNat

/-- What became of a text that was read as an integer. -/
inductive IntReading where
  | fits (n : Int)
  | tooLarge
  | other
deriving DecidableEq, Repr

/-- An integer has a JSON value from `-2 ^ 63` up to below `2 ^ 64`.  A
larger one of at most 128 bits is refused, and one beyond that is no integer. -/
def readInt (s : List Char) : IntReading :=
  match intOfText? s with
  | none => .other
  | some n =>
      if -((1 <<< 63 : Nat) : Int) ≤ n ∧ n < (1 <<< 64 : Nat) then .fits n
      else if -((1 <<< 127 : Nat) : Int) ≤ n ∧ n < (1 <<< 128 : Nat) then .tooLarge
      else .other

/-- The value of a float: a finite double, or one that JSON does not have. -/
inductive FloatValue where
  | finite (d : Double)
  | unwritable
deriving DecidableEq, Repr

/-- Decimal digits with an optional point and an optional exponent; there is at
least one digit in front of the exponent and in it. -/
def decimalOfText? (negative : Bool) (s : List Char) : Option Double := do
  let isDigit (c : Char) : Bool := '0' ≤ c && c ≤ '9'
  let whole := s.takeWhile isDigit
  let s := s.dropWhile isDigit
  let (fraction, s) := match s with
    | '.' :: rest => (rest.takeWhile isDigit, rest.dropWhile isDigit)
    | _ => ([], s)
  let significand ← natOfDigits? 10 (whole ++ fraction)
  let exponent : Int ← match s with
    | [] => some 0
    | e :: rest =>
        if e = 'e' ∨ e = 'E' then
          match rest with
          | '-' :: digits => (natOfDigits? 10 digits).map fun n => -(n : Int)
          | '+' :: digits => (natOfDigits? 10 digits).map Int.ofNat
          | digits => (natOfDigits? 10 digits).map Int.ofNat
        else none
  Double.ofDecimal? negative significand (exponent - fraction.length)

/-- The float that a text spells. -/
def floatOfText? (s : List Char) : Option FloatValue :=
  if [".inf", ".Inf", ".INF", "+.inf", "+.Inf", "+.INF", "-.inf", "-.Inf", "-.INF",
      ".nan", ".NaN", ".NAN"].contains (String.ofList s) then some .unwritable
  else
    match s with
    | '-' :: rest => (decimalOfText? true rest).map FloatValue.finite
    | '+' :: rest => (decimalOfText? false rest).map FloatValue.finite
    | rest => (decimalOfText? false rest).map FloatValue.finite

/-- The JSON value of a float. -/
def FloatValue.toJson : FloatValue → Json
  | finite d => .number (.double d)
  | unwritable => .null

/-- The value of a plain scalar without a tag. -/
def plainValue (s : List Char) : Except Mismatch Json :=
  if s.isEmpty || isNullText s then .ok .null
  else
    match boolOfText? s with
    | some b => .ok (.bool b)
    | none =>
        match readInt s with
        | .fits n => .ok (.number (.int n))
        | .tooLarge => .error .integerTooLarge
        | .other =>
            match if isPaddedDigits s then none else floatOfText? s with
            | some f => .ok f.toJson
            | none => .ok (.string (String.ofList s))

/-- The types that a tag of the core schema can ask for. -/
inductive CoreType where
  | bool
  | int
  | float
  | null
deriving DecidableEq, Repr

def coreType? (tag : List Char) : Option CoreType :=
  if tag = "tag:yaml.org,2002:bool".toList then some .bool
  else if tag = "tag:yaml.org,2002:int".toList then some .int
  else if tag = "tag:yaml.org,2002:float".toList then some .float
  else if tag = "tag:yaml.org,2002:null".toList then some .null
  else none

/-- The value of a scalar whose tag asks for a type. -/
def coreValue (type : CoreType) (s : List Char) : Except Mismatch Json :=
  let text := String.ofList s
  match type with
  | .bool =>
      match boolOfText? s with
      | some b => .ok (.bool b)
      | none => .error (.notBoolean text)
  | .int =>
      match readInt s with
      | .fits n => .ok (.number (.int n))
      | .tooLarge => .error .integerTooLarge
      | .other => .error (.notInteger text)
  | .float =>
      match floatOfText? s with
      | some f => .ok f.toJson
      | none => .error (.notFloat text)
  | .null => if isNullText s then .ok .null else .error (.notNull text)

/-- A tag that is local to a document. -/
def isLocalTag : Option (List Char) → Bool
  | some ('!' :: _) => true
  | _ => false

/-- The value of a scalar. -/
def scalarValue (tag : Option (List Char)) (s : List Char) (plain : Bool) :
    Except Mismatch Json :=
  match tag with
  | some tag =>
      match coreType? tag with
      | some type => coreValue type s
      | none => .ok (.string (String.ofList s))
  | none => if plain then plainValue s else .ok (.string (String.ofList s))

end ImageBuild.Yaml
