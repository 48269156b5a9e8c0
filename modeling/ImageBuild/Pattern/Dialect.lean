import ImageBuild.Pattern.Reader

/-!
# Patterns of ECMA 262

In this dialect the letters of the classes of digits, word characters and
blanks stand for fixed sets.  A pattern is checked and these letters are spelled
out before it is read; a pattern with looks around or references back is read as
it is written.
-/

namespace ImageBuild.Pattern

/-- What the check of a pattern finds: it is sound, it goes beyond what is
checked, it has an escape for a control character in front of some rest, or it
is no pattern. -/
inductive Verdict where
  | sound
  | beyond
  | control (rest : List Char)
  | unsound
deriving DecidableEq, Repr

/-- How far the check of a pattern has got.  `opened` holds, for each open
group, whether blanks were left out in front of it. -/
structure Check where
  rest : List Char
  spaced : Bool
  repeatable : Bool
  opened : List Bool
  names : List (List Char)

/-- The rest behind the first escape for a control character, from its letter
on. -/
def findControl? : List Char → Option (List Char)
  | '\\' :: c :: rest =>
      if c = 'c' ∧ (rest.head?.map Text.isAsciiLetter).getD false = true then some rest
      else findControl? rest
  | _ :: rest => findControl? rest
  | [] => none

/-- What the check of one piece finds: the rest behind it, or a verdict. -/
abbrev Checked := Except Verdict (List Char)

/-- The rest behind something that is needed. -/
def needed {α : Type} : Option (α × List Char) → Checked
  | some (_, rest) => .ok rest
  | none => .error .unsound

/-- Check an escape behind its backslash. -/
def checkEscape : List Char → Checked
  | [] => .error .unsound
  | c :: rest =>
      if Text.isAsciiDigit c then .error .beyond
      else if c = 'b' then needed (readWordBoundary? rest)
      else if c = 'A' ∨ c = 'z' ∨ c = 'B' ∨ c = '<' ∨ c = '>' then .ok rest
      else if c = 'c' ∧ (rest.head?.map Text.isAsciiLetter).getD false = true then
        .error (.control rest)
      else needed (readPiece? (c :: rest))

/-- Check a class behind its bracket. -/
def checkClass (text : List Char) : Checked :=
  match readClass? false text, findControl? text with
  | some (_, rest), _ => .ok rest
  | none, some rest => .error (.control rest)
  | none, none => .error .unsound

/-- Check flags: each at most once, and at most one sign in front of some of
them.  Gives what becomes of leaving out blanks and whether the group ends. -/
def checkFlags : Nat → List Char → Option Bool → Bool → List Char →
    Except Verdict (Option Bool × Bool × List Char)
  | 0, _, _, _, _ => .error .unsound
  | fuel + 1, seen, spaced, negated, text =>
      match text with
      | [] => .error .unsound
      | ')' :: rest =>
          if seen.isEmpty ∨ seen.head? = some '-' then .error .unsound
          else .ok (spaced, true, rest)
      | ':' :: rest =>
          if seen.head? = some '-' then .error .unsound else .ok (spaced, false, rest)
      | c :: rest =>
          if seen.contains c || !(['-', 'i', 'm', 's', 'U', 'u', 'R', 'x'].contains c) then
            .error .unsound
          else
            checkFlags fuel (c :: seen) (if c = 'x' then some !negated else spaced)
              (negated || c == '-') rest

/-- A group opens. -/
def Check.openGroup (k : Check) (rest : List Char) (spaced : Bool) : Check :=
  { k with rest, spaced, repeatable := false, opened := k.spaced :: k.opened }

/-- A name starts with a letter or an underscore. -/
def startsName (name : List Char) : Bool :=
  (name.head?.map fun c => c == '_' || CharSet.alphabetic.contains c).getD false

/-- Check what opens a group, behind its bracket. -/
def checkGroup (k : Check) (text : List Char) : Except Verdict Check :=
  let named (text : List Char) : Except Verdict Check :=
    match readName? '>' text with
    | some (name, rest) =>
        if !startsName name || k.names.contains name then .error .unsound
        else .ok { k.openGroup rest k.spaced with names := name :: k.names }
    | none => .error .unsound
  match text with
  | '?' :: '=' :: _ | '?' :: '!' :: _ | '?' :: '<' :: '=' :: _ | '?' :: '<' :: '!' :: _ =>
      .error .beyond
  | '?' :: 'P' :: '<' :: rest => named rest
  | '?' :: '<' :: rest => named rest
  | '?' :: rest => do
      let (spaced, closed, rest) ← checkFlags (rest.length + 1) [] none false rest
      let spaced := spaced.getD k.spaced
      if closed then .ok { k with rest, spaced, repeatable := false }
      else .ok (k.openGroup rest spaced)
  | rest => .ok (k.openGroup rest k.spaced)

/-- Check a quantifier in braces, behind the opening one. -/
def checkCounts (text : List Char) : Checked :=
  let skipBlanks (text : List Char) := text.dropWhile Text.isBlank
  match readDecimal? (skipBlanks text) with
  | none => .error .unsound
  | some (least, rest) =>
      if 1 <<< 32 ≤ least then .error .unsound
      else
        match skipBlanks rest with
        | '}' :: rest => .ok rest
        | ',' :: rest =>
            match rest with
            | '}' :: rest => .ok rest
            | _ =>
                match readDecimal? (skipBlanks rest) with
                | none => .error .unsound
                | some (most, rest) =>
                    match skipBlanks rest with
                    | '}' :: rest =>
                        if most < least ∨ 1 <<< 32 ≤ most then .error .unsound else .ok rest
                    | _ => .error .unsound
        | _ => .error .unsound

/-- Check a pattern, piece by piece. -/
def Check.run : Nat → Check → Verdict
  | 0, _ => .unsound
  | fuel + 1, k =>
      let piece (checked : Checked) : Verdict :=
        match checked with
        | .ok rest => run fuel { k with rest, repeatable := true }
        | .error verdict => verdict
      let quantifier (checked : Checked) : Verdict :=
        match checked with
        | .ok ('?' :: rest) => if k.repeatable then run fuel { k with rest } else .unsound
        | .ok rest => if k.repeatable then run fuel { k with rest } else .unsound
        | .error verdict => verdict
      match k.rest with
      | [] => if k.opened.isEmpty then .sound else .unsound
      | c :: rest =>
          if k.spaced && Text.isBlank c then run fuel { k with rest }
          else if k.spaced && c == '#' then
            run fuel { k with rest := rest.dropWhile fun c => c != '\n' }
          else
            match c with
            | '(' =>
                match checkGroup k rest with
                | .ok k => run fuel k
                | .error verdict => verdict
            | ')' =>
                match k.opened with
                | [] => .unsound
                | spaced :: opened =>
                    run fuel { k with rest, spaced, opened, repeatable := true }
            | '|' => run fuel { k with rest, repeatable := false }
            | '[' => piece (checkClass rest)
            | '\\' => piece (checkEscape rest)
            | '?' | '*' | '+' => quantifier (.ok rest)
            | '{' => if k.repeatable then quantifier (checkCounts rest) else .unsound
            | _ => piece (.ok rest)

/-- Check a pattern. -/
def check (text : List Char) : Verdict :=
  Check.run (text.length + 1)
    { rest := text, spaced := false, repeatable := false, opened := [], names := [] }

/-- Put the control characters themselves in place of their escapes, as far as
the check gets, at most `fuel` of them. -/
def replaceControls : Nat → List Char → List Char × Verdict
  | 0, text => (text, .unsound)
  | fuel + 1, text =>
      match check text with
      | .control (letter :: rest) =>
          let front := text.take (text.length - rest.length - 3)
          replaceControls fuel (front ++ Char.ofNat (letter.toNat % 32) :: rest)
      | verdict => (text, verdict)

/-- The blanks of the dialect. -/
def blankLetters : List Char :=
  [' ', '\t', '\n', '\r', '\x0b', '\x0c', '\xa0', '\ufeff', '\u2003', '\u2029']

/-- The fixed set that a letter of the dialect stands for, in brackets. -/
def fixedSet? : Char → Option (List Char)
  | 'd' => some "[0-9]".toList
  | 'D' => some "[^0-9]".toList
  | 'w' => some "[A-Za-z0-9_]".toList
  | 'W' => some "[^A-Za-z0-9_]".toList
  | 's' => some ('[' :: blankLetters ++ [']'])
  | 'S' => some ('[' :: '^' :: blankLetters ++ [']'])
  | _ => none

/-- Spell out the letters of classes.  The dialect has no escape for the bell. -/
def spellOut : List Char → Option (List Char)
  | '\\' :: c :: rest =>
      if c = 'a' then none
      else
        match fixedSet? c with
        | some set => (spellOut rest).map fun more => set ++ more
        | none => (spellOut rest).map fun more => '\\' :: c :: more
  | c :: rest => (spellOut rest).map fun more => c :: more
  | [] => some []

end Pattern

/-- A pattern with the text it is shown as. -/
structure Pattern where
  shown : List Char
  node : Pattern.Node

/-- How large a pattern may be when its repetitions are written out. -/
def Pattern.maxWeight : Nat := 300000

/-- The pattern that a text of the dialect writes, unless it is too large. -/
def Pattern.ofText? (text : List Char) : Option Pattern := do
  let (text, verdict) := replaceControls (text.length + 1) text
  let shown ← match verdict with
    | .sound => spellOut text
    | .beyond => some text
    | _ => none
  let node ← Node.ofText? shown
  if maxWeight < node.weight then none else return { shown, node }

end ImageBuild
