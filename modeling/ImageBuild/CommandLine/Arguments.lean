import ImageBuild.CommandLine.Misuse

/-!
# Reading arguments

The words of a command line are matched with the arguments of a command.  What is
given is gathered in the order in which it was first given.  The value of an
argument is judged when the next argument has been recognised, so that a word that
is no argument at all is reported first.
-/

namespace ImageBuild.CommandLine

/-- Arguments that are given, by their keys, each with its values. -/
abbrev Given := List (String × List String)

namespace Given

/-- The values of an argument. -/
def values (given : Given) (a : Argument) : List String :=
  (given.lookup a.key).getD []

/-- The value of an argument that is given at most once. -/
def value? (given : Given) (a : Argument) : Option String :=
  (given.values a).head?

/-- The value of an argument, or the one that holds if it is not given. -/
def valueOr (given : Given) (a : Argument) : String :=
  (given.value? a).getD (a.standard.getD "")

def isGiven (given : Given) (a : Argument) : Bool :=
  (given.lookup a.key).isSome

/-- The keys of what is given. -/
def keys (given : Given) : List String :=
  given.map Prod.fst

/-- Add a value of an argument. -/
def add (given : Given) (a : Argument) (value : String) : Given :=
  if given.isGiven a then
    given.map fun (key, values) => (key, if key = a.key then values ++ [value] else values)
  else given ++ [(a.key, [value])]

/-- Take an argument away. -/
def drop (given : Given) (a : Argument) : Given :=
  given.filter fun (key, _) => key != a.key

end Given

/-- The digits of a number, from the left, none of which may leave the range of
64 bits with a sign. -/
def readDigits (isNegative : Bool) : Nat → List Char → Except String Nat
  | n, [] => .ok n
  | n, c :: rest =>
      if !c.isDigit then .error "invalid digit found in string"
      else
        let next := n * 10 + (c.toNat - 48)
        if next > (if isNegative then 1 <<< 63 else 1 <<< 63 - 1) then
          .error (if isNegative then "number too small to fit in target type"
            else "number too large to fit in target type")
        else readDigits isNegative next rest

/-- The integer that a text writes, possibly with a sign. -/
def readInteger (text : List Char) : Except String Int :=
  match text with
  | [] => .error "cannot parse integer from empty string"
  | ['+'] | ['-'] => .error "invalid digit found in string"
  | '+' :: digits => (readDigits false 0 digits).map fun n => (n : Int)
  | '-' :: digits => (readDigits true 0 digits).map fun n => -(n : Int)
  | digits => (readDigits false 0 digits).map fun n => (n : Int)

/-- The number of at most 32 bits that a text writes. -/
def readCount (text : String) : Except String Nat := do
  match ← readInteger text.toList with
  | .ofNat n => if n < 1 <<< 32 then return n else throw s!"{n} is not in 0..=4294967295"
  | n => throw s!"{String.ofList (Json.writeInt n)} is not in 0..=4294967295"

/-- What is wrong with a value of an argument. -/
def valueProblem? (a : Argument) (value : String) : Option Problem :=
  match a.kind with
  | .text => none
  | .path => if value = "" then some (.missingValue a.text) else none
  | .number =>
      match readCount value with
      | .ok _ => none
      | .error reason => some (.invalidValue value a.text reason)

/-- What has been read: the arguments that are given and judged, and the one that
still has to be, with its value if that has come. -/
structure Reading where
  given : Given
  pending : Option (Argument × Option String)

namespace Reading

/-- Nothing has been read. -/
def start : Reading := ⟨[], none⟩

/-- Judge the pending argument.  The reading goes on even if there is a problem,
in case that another one is more important. -/
def settle (c : Command) (r : Reading) : Reading × Option Misuse :=
  match r.pending with
  | none => (r, none)
  | some (a, none) => (⟨r.given, none⟩, some { problem := .missingValue a.text })
  | some (a, some value) =>
      if r.given.isGiven a && !a.isRepeatable then
        (⟨r.given.drop a, none⟩, some { problem := .repeated a.text, usage := some c.usage })
      else
        (⟨r.given.add a value, none⟩,
          (valueProblem? a value).map fun problem => { problem })

/-- Judge the pending argument and stop at a problem. -/
def settled (c : Command) (r : Reading) : Except Misuse Reading :=
  match r.settle c with
  | (r, none) => .ok r
  | (_, some m) => .error m

/-- The keys of what has been given, once no more is to come. -/
def used (c : Command) (r : Reading) : List String :=
  (r.settle c).1.given.keys

/-- An option waits for its value. -/
def isWaiting (r : Reading) : Bool :=
  match r.pending with
  | some (_, none) => true
  | _ => false

end Reading

/-- Why a command line is not carried out. -/
inductive Halt where
  /-- The help text of a command is asked for. -/
  | help (c : Command) (isDetailed : Bool)
  /-- The version is asked for. -/
  | version
  /-- The command line is empty. -/
  | nothing
  | misuse (m : Misuse)

/-- What the words of a command line lead to: all are read, or a command comes
with more words behind it, to be read before a deferred misuse is reported. -/
inductive Progress where
  | done (given : Given)
  | command (given : Given) (deferred : Option Misuse) (name : String) (rest : List String)

/-- Stop with a misuse. -/
def halt {α : Type} (m : Misuse) : Except Halt α := .error (.misuse m)

/-- The option that a long name stands for. -/
def longOption? (c : Command) (name : String) : Option Argument :=
  c.options.find? fun a => a.long == some name

/-- The option that a short name stands for. -/
def shortOption? (c : Command) (name : Char) : Option Argument :=
  c.options.find? fun a => a.short == some name

/-- Note an option that takes no value. -/
def noteFlag (c : Command) (r : Reading) (a : Argument) (isLong : Bool) :
    Except Halt Reading := do
  let r ← (r.settled c).mapError .misuse
  if a.key = "help" then throw (.help c isLong)
  else if a.key = "version" then throw .version
  else if r.given.isGiven a then
    halt { problem := .repeated a.text, usage := some c.usage }
  else return { r with given := r.given.add a "true" }

/-- Read a word that starts with two dashes. -/
def readLong (c : Command) (r : Reading) (name : String) (value : Option String)
    (rest : List String) : Except Halt Reading :=
  match longOption? c name with
  | none => halt (.unknownLong c (r.used c) name rest)
  | some a =>
      match a.valueName, value with
      | some _, value => do
          let r ← (r.settled c).mapError .misuse
          return { r with pending := some (a, value) }
      | none, none => noteFlag c r a true
      | none, some value =>
          let others := r.given.keys.filter fun key =>
            !(c.positionals.any fun p => p.key == key && p.isRequired)
          halt {
            problem := .extraValue value a.text
            usage := some (c.usageWith (others ++ [a.key])) }

/-- Read words that start with one dash; the first letter decides. -/
def readShort (c : Command) (r : Reading) (name : Char) : Except Halt Reading :=
  match shortOption? c name with
  | none => halt (.unknownShort c s!"-{name}")
  | some a => noteFlag c r a false

/-- Read a word that is given by its place. -/
def readPlaced (c : Command) (r : Reading) (placed : Nat) (isTrailing : Bool) (word : String) :
    Except Halt Reading :=
  match c.positionals[placed]? with
  | none => halt (.unplaced c isTrailing word)
  | some a => do
      let r ← (r.settled c).mapError .misuse
      return { r with pending := some (a, some word) }

/-- The parts of a word that starts with two dashes. -/
def longParts (word : List Char) : String × Option String :=
  match Text.cutFirst '=' word with
  | some (name, value) => (String.ofList name, some (String.ofList value))
  | none => (String.ofList word, none)

/-- Read the words of a command line from some point on, after `placed` words
that were given by their place.  Behind two dashes alone, all words are. -/
def readWords (c : Command) : Reading → Nat → Bool → List String → Except Halt Progress
  | r, _, _, [] => do
      let r ← (r.settled c).mapError .misuse
      return .done r.given
  | r, placed, true, word :: rest => do
      let r ← readPlaced c r placed true word
      readWords c r (placed + 1) true rest
  | r, placed, false, word :: rest =>
      if c.isProgram && !r.isWaiting && (command? word).isSome then
        let (r, deferred) := r.settle c
        return .command r.given deferred word rest
      else
        match word.toList with
        | ['-', '-'] => readWords c r placed true rest
        | '-' :: '-' :: text => do
            let (name, value) := longParts text
            let r ← readLong c r name value rest
            readWords c r placed false rest
        | '-' :: name :: _ => do
            let r ← readShort c r name
            readWords c r placed false rest
        | _ =>
            match r.pending with
            | some (a, none) => readWords c ⟨r.given, some (a, some word)⟩ placed false rest
            | _ => do
                let r ← readPlaced c r placed false word
                readWords c r (placed + 1) false rest

/-- The arguments that words give to a command, all that it needs among them. -/
def readArguments (c : Command) (words : List String) : Except Halt Given := do
  match ← readWords c .start 0 false words with
  | .command .. => return []
  | .done given =>
      let missing := c.positionals.filter fun a => a.isRequired && !given.isGiven a
      if missing.isEmpty then return given
      else
        halt {
          problem := .missingArguments (missing.map Argument.text)
          usage := some (c.usageWith (given.keys ++ missing.map Argument.key)) }

end ImageBuild.CommandLine
