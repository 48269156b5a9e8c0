import ImageBuild.Json.Basic
import ImageBuild.Json.ReadError
import ImageBuild.Text.Word

/-!
# Reading JSON

`Json.read` gives the value that a JSON text stands for, or the first fault in
it.  A member that is named twice keeps its last value.  Arrays and objects may
be nested 127 deep.  Integers of at most 64 bits are read exactly; a number
with a point, an exponent or more digits is the product of its leading digits,
as many as fit 64 bits, and a power of ten, each rounded to a double.
-/

namespace ImageBuild.Json

open Decimal (Double)
open Text (isAsciiDigit)

/-- A fault, the text that was left when it was found, and the bytes of that
text that had already been looked at. -/
structure Stop where
  fault : ReadFault
  rest : List Char
  ahead : Nat

/-- Stop in front of the text that is left. -/
def stopAt (fault : ReadFault) (rest : List Char) : Except Stop α :=
  .error { fault, rest, ahead := 0 }

/-- Stop with one byte of the text that is left looked at, if there is one. -/
def stopBehind (fault : ReadFault) (rest : List Char) : Except Stop α :=
  .error { fault, rest, ahead := if rest.isEmpty then 0 else 1 }

/-- The blanks that JSON allows between tokens. -/
def isSpace (c : Char) : Bool :=
  c == ' ' || c == '\n' || c == '\t' || c == '\r'

/-- The text behind leading blanks. -/
def skipSpace (text : List Char) : List Char :=
  text.dropWhile isSpace

/-- The value of a hexadecimal digit. -/
def hexValue? (c : Char) : Option Nat :=
  if isAsciiDigit c then some (c.toNat - 48)
  else if 'a' ≤ c ∧ c ≤ 'f' then some (c.toNat - 87)
  else if 'A' ≤ c ∧ c ≤ 'F' then some (c.toNat - 55)
  else none

/-- Four hexadecimal digits. -/
def readHex (text : List Char) : Except Stop (Nat × List Char) :=
  if byteLength (text.take 4) < 4 then stopAt .endInString []
  else
    match text with
    | a :: b :: c :: d :: rest =>
        match hexValue? a, hexValue? b, hexValue? c, hexValue? d with
        | some a, some b, some c, some d => .ok (((a * 16 + b) * 16 + c) * 16 + d, rest)
        | _, _, _, _ => .error { fault := .invalidEscape, rest := text, ahead := 4 }
    | _ => .error { fault := .invalidEscape, rest := text, ahead := 4 }

/-- The character of a `\u` escape, behind the `u`.  Beyond the basic plane it
takes two escapes, for the two surrogates. -/
def readUnicodeEscape (text : List Char) : Except Stop (Char × List Char) := do
  let (n, rest) ← readHex text
  if 0xDC00 ≤ n ∧ n ≤ 0xDFFF then stopAt .loneSurrogate rest
  else if n < 0xD800 ∨ 0xDBFF < n then .ok (Char.ofNat n, rest)
  else
    match rest with
    | [] => stopAt .endInString rest
    | '\\' :: [] => stopAt .endInString []
    | '\\' :: 'u' :: behind =>
        let (m, rest) ← readHex behind
        if m < 0xDC00 ∨ 0xDFFF < m then stopAt .loneSurrogate rest
        else .ok (Char.ofNat ((n - 0xD800) * 0x400 + (m - 0xDC00) + 0x10000), rest)
    | '\\' :: behind => stopBehind .unfinishedSurrogate behind
    | _ => stopBehind .unfinishedSurrogate rest

/-- The character of an escape, behind the backslash. -/
def readEscape : List Char → Except Stop (Char × List Char)
  | [] => stopAt .endInString []
  | c :: rest =>
      if c = '"' ∨ c = '\\' ∨ c = '/' then .ok (c, rest)
      else if c = 'b' then .ok ('\x08', rest)
      else if c = 'f' then .ok ('\x0c', rest)
      else if c = 'n' then .ok ('\n', rest)
      else if c = 'r' then .ok ('\r', rest)
      else if c = 't' then .ok ('\t', rest)
      else if c = 'u' then readUnicodeEscape rest
      else stopBehind .invalidEscape (c :: rest)

/-- The rest of a string behind its opening quote, reading at most `fuel`
characters and escapes. -/
def readStringBody : Nat → List Char → List Char → Except Stop (String × List Char)
  | 0, _, text => stopAt .endInString text
  | _ + 1, _, [] => stopAt .endInString []
  | fuel + 1, done, c :: rest =>
      if c = '"' then .ok (String.ofList done.reverse, rest)
      else if c = '\\' then do
        let (escaped, rest) ← readEscape rest
        readStringBody fuel (escaped :: done) rest
      else if c.toNat < 0x20 then stopBehind .controlCharacter (c :: rest)
      else readStringBody fuel (c :: done) rest

/-- A string behind its opening quote. -/
def readString (text : List Char) : Except Stop (String × List Char) :=
  readStringBody (text.length + 1) [] text

/-- Digits joined to a significand as long as it fits 64 bits: the significand
and the number of digits that were left out. -/
def joinDigits : Nat → List Char → Nat × Nat
  | n, [] => (n, 0)
  | n, c :: rest =>
      let next := n * 10 + (c.toNat - 48)
      if next < 1 <<< 64 then joinDigits next rest else (n, rest.length + 1)

/-- Multiply or divide a double by a power of ten that is itself a double. -/
def scaleByPower (d : Double) (exponent : Int) : Option Double := do
  let power ← Double.ofQuotient? false (Nat.pow 10 exponent.natAbs) 1
  let (n, k) := d.quotient
  let (m, l) := power.quotient
  if 0 ≤ exponent then Double.ofQuotient? d.negative (n * m) (k * l)
  else Double.ofQuotient? d.negative (n * l) (k * m)

/-- A significand of 64 bits times a power of ten, rounded after each step.  A
double has powers of ten up to the 308th, and what is divided by two of them
that large is zero. -/
def doubleOfParts? (negative : Bool) (significand : Nat) (exponent : Int) : Option Double := do
  let d ← Double.ofQuotient? negative significand 1
  if d.isZero || exponent < -616 then return .zero negative
  else if exponent < -308 then scaleByPower (← scaleByPower d (-308)) (exponent + 308)
  else if 308 < exponent then none
  else scaleByPower d exponent

/-- A double from its parts, in front of the text that is left. -/
def finishDouble (negative : Bool) (significand : Nat) (exponent : Int) (rest : List Char) :
    Except Stop (Number × List Char) :=
  match doubleOfParts? negative significand exponent with
  | some d => .ok (.double d, rest)
  | none => stopAt .numberOutOfRange rest

/-- The digits of an exponent up to the one at which it exceeds 31 bits: the
exponent, if it fits, and the text behind. -/
def joinExponent : Nat → List Char → Option Nat × List Char
  | n, [] => (some n, [])
  | n, c :: rest =>
      if isAsciiDigit c then
        let next := n * 10 + (c.toNat - 48)
        if next < 1 <<< 31 then joinExponent next rest else (none, rest)
      else (some n, c :: rest)

/-- The exponent of a number, behind its `e`. -/
def readExponent (negative : Bool) (significand : Nat) (exponent : Int) (text : List Char) :
    Except Stop (Number × List Char) :=
  let (down, text) :=
    match text with
    | '+' :: rest => (false, rest)
    | '-' :: rest => (true, rest)
    | _ => (false, text)
  match text with
  | [] => stopAt .endInValue []
  | c :: _ =>
      if isAsciiDigit c then
        match joinExponent 0 text with
        | (some e, rest) =>
            finishDouble negative significand (if down then exponent - e else exponent + e) rest
        | (none, rest) =>
            if significand ≠ 0 ∧ ¬ down then stopAt .numberOutOfRange rest
            else .ok (.double (.zero negative), rest.dropWhile isAsciiDigit)
      else stopBehind .invalidNumber text

/-- The exponent of a number if there is one. -/
def readExponent? (negative : Bool) (significand : Nat) (exponent : Int) (text : List Char) :
    Except Stop (Number × List Char) :=
  match text with
  | 'e' :: rest => readExponent negative significand exponent rest
  | 'E' :: rest => readExponent negative significand exponent rest
  | _ => finishDouble negative significand exponent text

/-- The rest of a number behind the digits in front of its point; `dropped`
digits are not in the significand. -/
def readFraction (negative : Bool) (significand dropped : Nat) (text : List Char) :
    Except Stop (Number × List Char) :=
  match text with
  | '.' :: behind =>
      let digits := behind.takeWhile isAsciiDigit
      let rest := behind.dropWhile isAsciiDigit
      if digits.isEmpty then
        if rest.isEmpty then stopAt .endInValue [] else stopBehind .invalidNumber rest
      else
        let (significand, left) := joinDigits significand digits
        readExponent? negative significand ((dropped : Int) - (digits.length - left : Nat)) rest
  | 'e' :: _ => readExponent? negative significand dropped text
  | 'E' :: _ => readExponent? negative significand dropped text
  | _ =>
      if dropped ≠ 0 then finishDouble negative significand dropped text
      else if negative then
        if 1 ≤ significand ∧ significand ≤ 1 <<< 63 then .ok (.int (-(significand : Int)), text)
        else finishDouble true significand 0 text
      else .ok (.int significand, text)

/-- A number behind its sign.  Only a lone zero starts with one. -/
def readNumber (negative : Bool) (text : List Char) : Except Stop (Number × List Char) :=
  match text with
  | [] => stopAt .endInValue []
  | '0' :: rest =>
      match rest with
      | c :: _ => if isAsciiDigit c then stopBehind .invalidNumber rest
                  else readFraction negative 0 0 rest
      | [] => readFraction negative 0 0 rest
  | c :: _ =>
      if isAsciiDigit c then
        let digits := text.takeWhile isAsciiDigit
        let (significand, dropped) := joinDigits 0 digits
        readFraction negative significand dropped (text.dropWhile isAsciiDigit)
      else stopBehind .invalidNumber text

/-- The remaining letters of a word. -/
def readWord (value : Json) : List Char → List Char → Except Stop (Json × List Char)
  | [], text => .ok (value, text)
  | _ :: _, [] => stopAt .endInValue []
  | w :: word, c :: rest =>
      if c = w then readWord value word rest else stopBehind .expectedWord (c :: rest)

/-- The items of an array behind its bracket, at most `fuel` of them. -/
def readItems (value : List Char → Except Stop (Json × List Char)) :
    Nat → List Json → List Char → Except Stop (List Json × List Char)
  | 0, _, text => stopAt .endInArray text
  | fuel + 1, done, text =>
      let text := skipSpace text
      match text with
      | [] => stopAt .endInArray []
      | ']' :: rest => .ok (done.reverse, rest)
      | c :: rest =>
          if done.isEmpty then do
            let (item, rest) ← value text
            readItems value fuel (item :: done) rest
          else if c = ',' then
            let text := skipSpace rest
            match text with
            | [] => stopAt .endInValue []
            | ']' :: _ => stopBehind .trailingComma text
            | _ => do
                let (item, rest) ← value text
                readItems value fuel (item :: done) rest
          else stopBehind .expectedArrayEnd text

/-- One member of an object, behind the opening quote of its name. -/
def readMember (value : List Char → Except Stop (Json × List Char)) (text : List Char) :
    Except Stop ((String × Json) × List Char) := do
  let (name, rest) ← readString text
  let rest := skipSpace rest
  match rest with
  | [] => stopAt .endInObject []
  | ':' :: rest => do
      let (item, rest) ← value rest
      .ok ((name, item), rest)
  | _ => stopBehind .expectedColon rest

/-- The members of an object behind its brace, at most `fuel` of them. -/
def readMembers (value : List Char → Except Stop (Json × List Char)) :
    Nat → List (String × Json) → List Char → Except Stop (List (String × Json) × List Char)
  | 0, _, text => stopAt .endInObject text
  | fuel + 1, done, text =>
      let text := skipSpace text
      match text with
      | [] => stopAt .endInObject []
      | '}' :: rest => .ok (done.reverse, rest)
      | c :: rest =>
          if done.isEmpty then
            if c = '"' then do
              let (member, rest) ← readMember value rest
              readMembers value fuel (member :: done) rest
            else stopBehind .nameNotString text
          else if c = ',' then
            let text := skipSpace rest
            match text with
            | [] => stopAt .endInValue []
            | '"' :: rest => do
                let (member, rest) ← readMember value rest
                readMembers value fuel (member :: done) rest
            | '}' :: _ => stopBehind .trailingComma text
            | _ => stopBehind .nameNotString text
          else stopBehind .expectedObjectEnd text

/-- A value in front of a text, with arrays and objects nested at most as deep
as the given number of levels. -/
def readValue : Nat → List Char → Except Stop (Json × List Char)
  | levels, text =>
      let text := skipSpace text
      match text with
      | [] => stopAt .endInValue []
      | 'n' :: rest => readWord .null ['u', 'l', 'l'] rest
      | 't' :: rest => readWord (.bool true) ['r', 'u', 'e'] rest
      | 'f' :: rest => readWord (.bool false) ['a', 'l', 's', 'e'] rest
      | '-' :: rest => (readNumber true rest).map fun (n, rest) => (.number n, rest)
      | '"' :: rest => (readString rest).map fun (s, rest) => (.string s, rest)
      | '[' :: rest =>
          match levels with
          | 0 => stopBehind .tooDeep text
          | levels + 1 =>
              (readItems (readValue levels) (rest.length + 1) [] rest).map
                fun (items, rest) => (.array items, rest)
      | '{' :: rest =>
          match levels with
          | 0 => stopBehind .tooDeep text
          | levels + 1 =>
              (readMembers (readValue levels) (rest.length + 1) [] rest).map
                fun (pairs, rest) => (ofPairs pairs, rest)
      | c :: _ =>
          if isAsciiDigit c then (readNumber false text).map fun (n, rest) => (.number n, rest)
          else stopBehind .expectedValue text

/-- A value with nothing but blanks behind it. -/
def readAll (text : List Char) : Except Stop Json := do
  let (value, rest) ← readValue 127 text
  let rest := skipSpace rest
  if rest.isEmpty then .ok value else stopBehind .trailingText rest

/-- The value of a JSON text. -/
def read (text : String) : Except ReadError Json :=
  let chars := text.toList
  match readAll chars with
  | .ok value => .ok value
  | .error stop =>
      let offset := byteLength chars - byteLength stop.rest + stop.ahead
      let (line, column) := placeOfOffset chars offset
      .error { fault := stop.fault, line, column }

end ImageBuild.Json
