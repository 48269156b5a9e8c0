import ImageBuild.Json.Basic
import ImageBuild.Decimal.Shortest

/-!
# Writing JSON

A value in its compact form, without any blank, and in its laid-out form, with
one member or item a line and two more spaces of indentation a level.  Both
write the same tokens.
-/

namespace ImageBuild.Json

open Decimal (Double natDigits)

/-- The hexadecimal digit of a number below sixteen. -/
def hexDigit (n : Nat) : Char :=
  (['0', '1', '2', '3', '4', '5', '6', '7', '8', '9', 'a', 'b', 'c', 'd', 'e', 'f'][n]?).getD '0'

/-- One character inside a written string.  Only the quote, the backslash and
control characters are escaped. -/
def escapeChar (c : Char) : List Char :=
  if c = '"' then ['\\', '"']
  else if c = '\\' then ['\\', '\\']
  else if c = '\n' then ['\\', 'n']
  else if c = '\r' then ['\\', 'r']
  else if c = '\t' then ['\\', 't']
  else if c = '\x08' then ['\\', 'b']
  else if c = '\x0c' then ['\\', 'f']
  else if c.toNat < 0x20 then
    ['\\', 'u', '0', '0', hexDigit (c.toNat / 16), hexDigit (c.toNat % 16)]
  else [c]

/-- A string with its quotes. -/
def writeString (s : String) : List Char :=
  '"' :: s.toList.flatMap escapeChar ++ ['"']

/-- An integer in decimal. -/
def writeInt (n : Int) : List Char :=
  if n < 0 then '-' :: natDigits n.natAbs else natDigits n.natAbs

/-- A double by its shortest digits: in positional form, always with a point,
from `1e-5` up to below `1e16`, and with a signed exponent elsewhere. -/
def writeDouble (d : Double) : List Char :=
  let { digits, exponent } := d.shortest
  let written := natDigits digits
  let sign := if d.negative then ['-'] else []
  if digits = 0 then sign ++ ['0', '.', '0']
  else
    let point : Int := (written.length : Int) + exponent
    let body :=
      if 0 ≤ exponent ∧ point ≤ 16 then
        written ++ List.replicate exponent.toNat '0' ++ ['.', '0']
      else if 0 < point ∧ point ≤ 16 then
        written.take point.toNat ++ ['.'] ++ written.drop point.toNat
      else if -5 < point ∧ point ≤ 0 then
        ['0', '.'] ++ List.replicate (-point).toNat '0' ++ written
      else
        let power := point - 1
        let mantissa :=
          match written with
          | [c] => [c]
          | c :: rest => c :: '.' :: rest
          | [] => []
        mantissa ++ ['e', if power < 0 then '-' else '+'] ++ natDigits power.natAbs
    sign ++ body

/-- A number in its written form. -/
def Number.write : Number → List Char
  | .int n => writeInt n
  | .double d => writeDouble d

mutual

/-- A value without any blank. -/
def write : Json → List Char
  | .null => ['n', 'u', 'l', 'l']
  | .bool true => ['t', 'r', 'u', 'e']
  | .bool false => ['f', 'a', 'l', 's', 'e']
  | .number n => n.write
  | .string s => writeString s
  | .array items => '[' :: writeItems items ++ [']']
  | .object members => '{' :: writeMembers members ++ ['}']

/-- Values with commas between them. -/
def writeItems : List Json → List Char
  | [] => []
  | [x] => write x
  | x :: rest => write x ++ ',' :: writeItems rest

/-- Members with commas between them. -/
def writeMembers : List (String × Json) → List Char
  | [] => []
  | [(name, x)] => writeString name ++ ':' :: write x
  | (name, x) :: rest => writeString name ++ ':' :: write x ++ ',' :: writeMembers rest

end

/-- A line break followed by the indentation of a level. -/
def newLine (level : Nat) : List Char :=
  '\n' :: List.replicate (2 * level) ' '

mutual

/-- A value laid out at a level of indentation. -/
def layOut (level : Nat) : Json → List Char
  | .array [] => ['[', ']']
  | .array items => '[' :: layOutItems (level + 1) items ++ newLine level ++ [']']
  | .object [] => ['{', '}']
  | .object members => '{' :: layOutMembers (level + 1) members ++ newLine level ++ ['}']
  | .null => write .null
  | .bool b => write (.bool b)
  | .number n => n.write
  | .string s => writeString s

/-- Items, each on a line of its own. -/
def layOutItems (level : Nat) : List Json → List Char
  | [] => []
  | [x] => newLine level ++ layOut level x
  | x :: rest => newLine level ++ layOut level x ++ ',' :: layOutItems level rest

/-- Members, each on a line of its own. -/
def layOutMembers (level : Nat) : List (String × Json) → List Char
  | [] => []
  | [(name, x)] => newLine level ++ writeString name ++ ':' :: ' ' :: layOut level x
  | (name, x) :: rest =>
      newLine level ++ writeString name ++ ':' :: ' ' :: layOut level x ++
        ',' :: layOutMembers level rest

end

/-- The compact text of a value. -/
def compact (value : Json) : String :=
  String.ofList (write value)

/-- The laid-out text of a value. -/
def pretty (value : Json) : String :=
  String.ofList (layOut 0 value)

end ImageBuild.Json
