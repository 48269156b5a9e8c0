import ImageBuild.Pattern.CharSet

/-!
# Patterns

A pattern as a tree, and what it matches.  `Node.run` gives the ways in which a
pattern can match from a place on, the preferred one first and each once;
`Node.foundIn` tells whether it matches anywhere in a text.
-/

namespace ImageBuild.Pattern

/-- Conditions on a place of a text. -/
inductive Boundary where
  | textStart
  | textEnd
  | textEndBeforeBreaks
  | lineStart
  | lineEnd
  | word
  | notWord
  | wordStart
  | wordEnd
  | wordStartHalf
  | wordEndHalf
deriving DecidableEq, Repr

/-- A pattern. -/
inductive Node where
  | nothing
  | char (s : CharSet)
  | boundary (b : Boundary)
  | sequence (first second : Node)
  | choice (first second : Node)
  | repeated (body : Node) (least : Nat) (most : Option Nat) (greedy : Bool)
  | atomic (body : Node)
  | capture (group : Nat) (body : Node)
  | backreference (group : Nat) (anyCase : Bool)
  | look (ahead positive : Bool) (body : Node)
deriving Repr

/-- About how many steps a pattern has when its repetitions are written out. -/
def Node.weight : Node → Nat
  | .nothing | .boundary _ | .backreference _ _ => 1
  | .char s => s.weight
  | .sequence first second => first.weight + second.weight
  | .choice first second => first.weight + second.weight + 1
  | .repeated body least most _ => body.weight * (most.getD (max least 1)) + 1
  | .atomic body | .capture _ body | .look _ _ body => body.weight + 2

/-- A place in a text: what lies before it, nearest character first, and what
lies behind it. -/
structure Place where
  index : Nat
  before : List Char
  after : List Char

namespace Place

/-- The start of a text. -/
def start (text : List Char) : Place := ⟨0, [], text⟩

/-- The character in front and the place behind it. -/
def next? (p : Place) : Option (Char × Place) :=
  match p.after with
  | [] => none
  | c :: rest => some (c, ⟨p.index + 1, c :: p.before, rest⟩)

/-- The place in front of the preceding character. -/
def back? (p : Place) : Option Place :=
  match p.before with
  | [] => none
  | c :: rest => some ⟨p.index - 1, rest, c :: p.after⟩

/-- A property of a neighbouring character, which the ends do not have. -/
def near (p : Char → Bool) : List Char → Bool
  | [] => false
  | c :: _ => p c

/-- A condition holds at a place. -/
def meets (p : Place) (b : Boundary) : Bool :=
  let wordBefore := near Text.isWordChar p.before
  let wordAfter := near Text.isWordChar p.after
  match b with
  | .textStart => p.before.isEmpty
  | .textEnd => p.after.isEmpty
  | .textEndBeforeBreaks => p.after.all fun c => c == '\n'
  | .lineStart => p.before.isEmpty || near (fun c => c == '\n') p.before
  | .lineEnd => p.after.isEmpty || near (fun c => c == '\n') p.after
  | .word => wordBefore != wordAfter
  | .notWord => wordBefore == wordAfter
  | .wordStart => !wordBefore && wordAfter
  | .wordEnd => wordBefore && !wordAfter
  | .wordStartHalf => !wordBefore
  | .wordEndHalf => !wordAfter

end Place

/-- A place with the texts that groups have captured on the way to it. -/
structure Progress where
  place : Place
  captured : List (Nat × List Char)

namespace Progress

/-- Two ways to the same place with the same captures are one. -/
def sameAs (p q : Progress) : Bool :=
  p.place.index == q.place.index && p.captured == q.captured

/-- Each way once, at its first position. -/
def dedup (ways : List Progress) : List Progress :=
  ways.foldr (fun w rest => w :: rest.filter fun v => !w.sameAs v) []

/-- The text of a group since it began. -/
def capture (group : Nat) (began : Place) (p : Progress) : Progress :=
  let text := began.after.take (p.place.index - began.index)
  { p with captured := (group, text) :: p.captured.filter fun (other, _) => other != group }

/-- Move behind a given text. -/
def skipText (anyCase : Bool) : List Char → Progress → Option Progress
  | [], p => some p
  | c :: rest, p =>
      match p.place.next? with
      | some (d, place) =>
          if c = d ∨ (anyCase = true ∧ Text.foldCase c = Text.foldCase d) then
            skipText anyCase rest { p with place }
          else none
      | none => none

/-- All ways of one more step from some ways on. -/
def advance (step : Progress → List Progress) (ways : List Progress) : List Progress :=
  dedup (ways.flatMap step)

/-- The ways of so many steps. -/
def repeatExactly (step : Progress → List Progress) : Nat → List Progress → List Progress
  | 0, ways => ways
  | count + 1, ways => repeatExactly step count (advance step ways)

/-- A step that moves on. -/
def moving (step : Progress → List Progress) (p : Progress) : List Progress :=
  (step p).filter fun q => q.place.index != p.place.index

/-- The ways of no step, one step and so on up to a number of them, each of
which moves on. -/
def repeatUpTo (step : Progress → List Progress) : Nat → List Progress → List (List Progress)
  | 0, ways => [ways]
  | count + 1, ways =>
      if ways.isEmpty then [] else ways :: repeatUpTo step count (advance (moving step) ways)

/-- The ways of repeating a step, as often as possible first or last. -/
def repeatSteps (step : Progress → List Progress) (least : Nat) (most : Option Nat)
    (greedy : Bool) (p : Progress) : List Progress :=
  let reach := p.place.after.length
  let count := match most with
    | some n => min (n - least) reach
    | none => reach
  let levels := repeatUpTo step count (repeatExactly step least [p])
  dedup (if greedy then levels.reverse.flatten else levels.flatten)

/-- The places from which a text in front of a place may begin. -/
def backwards : Nat → Progress → List Progress
  | 0, p => [p]
  | fuel + 1, p =>
      match p.place.back? with
      | none => [p]
      | some place => p :: backwards fuel { p with place }

end Progress

open Progress

/-- The ways in which a pattern matches from a place on. -/
def Node.run : Node → Progress → List Progress
  | .nothing, p => [p]
  | .char s, p =>
      match p.place.next? with
      | some (c, place) => if s.contains c then [{ p with place }] else []
      | none => []
  | .boundary b, p => if p.place.meets b then [p] else []
  | .sequence first second, p => dedup ((first.run p).flatMap second.run)
  | .choice first second, p => dedup (first.run p ++ second.run p)
  | .repeated body least most greedy, p =>
      repeatSteps body.run least most greedy p
  | .atomic body, p => (body.run p).take 1
  | .capture group body, p => (body.run p).map (Progress.capture group p.place)
  | .backreference group anyCase, p =>
      match p.captured.find? fun (other, _) => other == group with
      | some (_, text) => (p.skipText anyCase text).toList
      | none => []
  | .look true positive body, p =>
      match body.run p with
      | [] => if positive then [] else [p]
      | way :: _ => if positive then [{ p with captured := way.captured }] else []
  | .look false positive body, p =>
      let ways := (backwards p.place.index p).flatMap body.run
      match ways.find? fun way => way.place.index == p.place.index with
      | none => if positive then [] else [p]
      | some way => if positive then [{ p with captured := way.captured }] else []

/-- A pattern matches from a place or a later one on. -/
def Node.foundFrom (n : Node) : Nat → Place → Bool
  | 0, place => !(n.run ⟨place, []⟩).isEmpty
  | fuel + 1, place =>
      !(n.run ⟨place, []⟩).isEmpty ||
        match place.next? with
        | some (_, place) => n.foundFrom fuel place
        | none => false

/-- A pattern matches somewhere in a text. -/
def Node.foundIn (n : Node) (text : List Char) : Bool :=
  n.foundFrom text.length (Place.start text)

end ImageBuild.Pattern
