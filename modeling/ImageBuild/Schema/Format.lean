import ImageBuild.Schema.Basic

/-!
# Formats of strings

Dates, times, addresses and names, each with the test that a string has it.
-/

namespace ImageBuild.Format

open Text (isAsciiLetter isAsciiDigit)

/-- The value of decimal digits; a text with anything else has none. -/
def number? (digits : List Char) : Option Nat :=
  if digits.isEmpty || !digits.all isAsciiDigit then none
  else some (digits.foldl (fun n c => n * 10 + (c.toNat - 48)) 0)

/-- The days of a month of the Gregorian calendar. -/
def daysOfMonth (year month : Nat) : Nat :=
  if month = 2 then
    if year % 4 = 0 ∧ (year % 100 ≠ 0 ∨ year % 400 = 0) then 29 else 28
  else if month = 4 ∨ month = 6 ∨ month = 9 ∨ month = 11 then 30
  else 31

/-- A date as year, month and day. -/
def isDate : List Char → Bool
  | [y₁, y₂, y₃, y₄, '-', m₁, m₂, '-', d₁, d₂] =>
      match number? [y₁, y₂, y₃, y₄], number? [m₁, m₂], number? [d₁, d₂] with
      | some year, some month, some day =>
          1 ≤ month && month ≤ 12 && 1 ≤ day && day ≤ daysOfMonth year month
      | _, _, _ => false
  | _ => false

/-- The distance of a time zone from universal time in minutes. -/
def offset? : List Char → Option Int
  | ['Z'] | ['z'] => some 0
  | [sign, h₁, h₂, ':', m₁, m₂] => do
      let hours ← number? [h₁, h₂]
      let minutes ← number? [m₁, m₂]
      if 23 < hours ∨ 59 < minutes then none
      else if sign = '+' then return ((hours * 60 + minutes : Nat) : Int)
      else if sign = '-' then return -((hours * 60 + minutes : Nat) : Int)
      else none
  | _ => none

/-- A time with its zone.  A leap second can only be the last second of a day of
universal time. -/
def isTime : List Char → Bool
  | h₁ :: h₂ :: ':' :: m₁ :: m₂ :: ':' :: s₁ :: s₂ :: rest =>
      let (sound, zone) := match rest with
        | '.' :: more =>
            (((more.head?.map isAsciiDigit).getD false), more.dropWhile isAsciiDigit)
        | _ => (true, rest)
      match number? [h₁, h₂], number? [m₁, m₂], number? [s₁, s₂], offset? zone with
      | some hours, some minutes, some seconds, some offset =>
          let universal := ((hours * 60 + minutes : Nat) : Int) - offset
          sound && hours ≤ 23 && minutes ≤ 59 &&
            (seconds ≤ 59 || (seconds == 60 && Int.emod universal 1440 == 1439))
      | _, _, _, _ => false
  | _ => false

/-- A date and a time with a letter between them. -/
def isDateTime (s : List Char) : Bool :=
  let isMark (c : Char) : Bool := c == 'T' || c == 't'
  match s.dropWhile fun c => !isMark c with
  | _ :: later => isDate (s.takeWhile fun c => !isMark c) && isTime later
  | [] => false

/-- A part of a host name: letters, digits and inner dashes. -/
def isLabel (s : List Char) : Bool :=
  !s.isEmpty && s.length ≤ 63 && s.head? != some '-' && s.getLast? != some '-' &&
    s.all fun c => isAsciiLetter c || isAsciiDigit c || c == '-'

def isHostname (s : List Char) : Bool :=
  s.length ≤ 253 && (Text.splitOn '.' s).all isLabel

/-- A number below 256 without a leading zero. -/
def isOctet (s : List Char) : Bool :=
  match number? s with
  | some n => n ≤ 255 && s.length ≤ 3 && (s.length == 1 || s.head? != some '0')
  | none => false

def isIpv4 (s : List Char) : Bool :=
  let parts := Text.splitOn '.' s
  parts.length == 4 && parts.all isOctet

/-- One to four hexadecimal digits. -/
def isHexGroup (s : List Char) : Bool :=
  !s.isEmpty && s.length ≤ 4 && s.all fun c => (Json.hexValue? c).isSome

/-- The number of 16-bit groups that colons separate, where the last one may be
an address of four octets. -/
def countGroups? (s : List Char) : Option Nat :=
  if s.isEmpty then some 0
  else
    let parts := Text.splitOn ':' s
    match parts.reverse with
    | [] => none
    | last :: front =>
        if !front.all isHexGroup then none
        else if isHexGroup last then some parts.length
        else if isIpv4 last then some (parts.length + 1)
        else none

/-- Cut a text at the first double colon. -/
def cutDoubleColon : List Char → Option (List Char × List Char)
  | ':' :: ':' :: rest => some ([], rest)
  | c :: rest => (cutDoubleColon rest).map fun (before, after) => (c :: before, after)
  | [] => none

/-- Eight groups, or fewer with one double colon in place of the others. -/
def isIpv6 (s : List Char) : Bool :=
  match cutDoubleColon s with
  | none => countGroups? s == some 8
  | some (before, after) =>
      match countGroups? before, countGroups? after with
      | some m, some n => m + n ≤ 7 && !before.contains '.'
      | _, _ => false

/-- The characters of a local part outside of quotes. -/
def isLocalChar (c : Char) : Bool :=
  isAsciiLetter c || isAsciiDigit c || 128 ≤ c.toNat ||
    ['!', '#', '$', '%', '&', '\x27', '*', '+', '-', '/', '=', '?', '^', '_', '\x60', '{', '|',
      '}', '~'].contains c

/-- The inner part of a quoted local part. -/
def isQuotedLocal : List Char → Bool
  | [] => true
  | '\\' :: _ :: rest => isQuotedLocal rest
  | c :: rest => c != '"' && c != '\\' && 0x20 ≤ c.toNat && isQuotedLocal rest

/-- The local part of an address: words with points between them, or a quoted
text. -/
def isLocalPart (s : List Char) : Bool :=
  !s.isEmpty && s.length ≤ 64 &&
    match s with
    | '"' :: rest => rest.getLast? == some '"' && isQuotedLocal rest.dropLast
    | _ => (Text.splitOn '.' s).all fun word => !word.isEmpty && word.all isLocalChar

/-- A host name, or an address in brackets. -/
def isMailDomain (isHost : List Char → Bool) (s : List Char) : Bool :=
  match s with
  | '[' :: rest =>
      rest.getLast? == some ']' &&
        match rest.dropLast with
        | 'I' :: 'P' :: 'v' :: '6' :: ':' :: address => isIpv6 address
        | address => isIpv4 address
  | _ => isHost s

/-- A mail address. -/
def isEmail (isHost : List Char → Bool) (s : List Char) : Bool :=
  match Text.cutLast '@' s with
  | some (localPart, domain) => isLocalPart localPart && isMailDomain isHost domain
  | none => false

/-- A part of a host name that may hold letters of any script. -/
def isIdnLabel (s : List Char) : Bool :=
  !s.isEmpty && s.length ≤ 63 && s.head? != some '-' && s.getLast? != some '-' &&
    s.all fun c => isAsciiLetter c || isAsciiDigit c || c == '-' || 128 ≤ c.toNat

def isIdnHostname (s : List Char) : Bool :=
  s.length ≤ 253 && (Text.splitOn '.' s).all isIdnLabel

/-- The characters that need no escape anywhere in a URI. -/
def isUnreserved (c : Char) : Bool :=
  isAsciiLetter c || isAsciiDigit c || ['-', '.', '_', '~'].contains c

/-- The characters that may separate parts of a component of a URI. -/
def isSubDelimiter (c : Char) : Bool :=
  ['!', '$', '&', '\x27', '(', ')', '*', '+', ',', ';', '='].contains c

/-- A text of allowed characters and of octets written with a percent sign. -/
def isEncoded (allowed : Char → Bool) : List Char → Bool
  | [] => true
  | '%' :: a :: b :: rest =>
      (Json.hexValue? a).isSome && (Json.hexValue? b).isSome && isEncoded allowed rest
  | c :: rest => c != '%' && allowed c && isEncoded allowed rest

/-- The host of a URI with its port: an address in brackets, or a name. -/
def isHostPort (s : List Char) : Bool :=
  let isName (c : Char) : Bool := isUnreserved c || isSubDelimiter c
  match s with
  | '[' :: rest =>
      match Text.cutFirst ']' rest with
      | some (address, []) => isIpv6 address
      | some (address, ':' :: port) => isIpv6 address && port.all isAsciiDigit
      | _ => false
  | _ =>
      match Text.cutLast ':' s with
      | some (host, port) => isEncoded isName host && port.all isAsciiDigit
      | none => isEncoded isName s

/-- What follows the two slashes of a URI. -/
def isAuthority (s : List Char) : Bool :=
  match Text.cutLast '@' s with
  | some (user, host) =>
      isEncoded (fun c => isUnreserved c || isSubDelimiter c || c == ':') user && isHostPort host
  | none => isHostPort s

/-- The scheme of a URI. -/
def isScheme : List Char → Bool
  | [] => false
  | c :: rest =>
      isAsciiLetter c &&
        rest.all fun c => isAsciiLetter c || isAsciiDigit c || ['+', '-', '.'].contains c

/-- A URI with its scheme. -/
def isUri (s : List Char) : Bool :=
  let isPathChar (c : Char) : Bool :=
    isUnreserved c || isSubDelimiter c || c == ':' || c == '@' || c == '/'
  let isQueryChar (c : Char) : Bool := isPathChar c || c == '?'
  match Text.cutFirst ':' s with
  | none => false
  | some (scheme, rest) =>
      let (rest, fragment) := (Text.cutFirst '#' rest).getD (rest, [])
      let (rest, query) := (Text.cutFirst '?' rest).getD (rest, [])
      let hierarchy := match rest with
        | '/' :: '/' :: more =>
            isAuthority (more.takeWhile fun c => c != '/') &&
              isEncoded isPathChar (more.dropWhile fun c => c != '/')
        | _ => isEncoded isPathChar rest
      isScheme scheme && hierarchy && isEncoded isQueryChar query && isEncoded isQueryChar fragment

/-- A text has a format. -/
def admits (f : Format) (s : List Char) : Bool :=
  match f with
  | date => isDate s
  | dateTime => isDateTime s
  | email => isEmail isHostname s
  | hostname => isHostname s
  | idnEmail => isEmail isIdnHostname s
  | ipv4 => isIpv4 s
  | ipv6 => isIpv6 s
  | regex => (Pattern.ofText? s).isSome
  | time => isTime s
  | uri => isUri s

end ImageBuild.Format
