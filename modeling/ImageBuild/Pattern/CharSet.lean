import ImageBuild.Text.Blank
import ImageBuild.Text.Case
import ImageBuild.Text.Category
import ImageBuild.Text.Word

/-!
# Sets of characters

Sets of characters as they are written in patterns, with `CharSet.contains` for
membership.  A set is an expression over ranges of code points, so that its
membership test follows the way it was written.
-/

namespace ImageBuild.Pattern

/-- An expression for a set of characters. -/
inductive CharSet where
  | ranges (rs : List (Nat × Nat))
  | anyCase (s : CharSet)
  | union (s t : CharSet)
  | inter (s t : CharSet)
  | diff (s t : CharSet)
  | symmDiff (s t : CharSet)
  | compl (s : CharSet)
deriving Repr

namespace CharSet

/-- Some range of a list holds a code point. -/
def inRanges (rs : List (Nat × Nat)) (n : Nat) : Bool :=
  rs.any fun (first, last) => first ≤ n && n ≤ last

/-- A character belongs to a set. -/
def contains : CharSet → Char → Bool
  | ranges rs, c => inRanges rs c.toNat
  | anyCase s, c => s.contains c || (Text.caseVariants c).any fun d => s.contains d
  | union s t, c => s.contains c || t.contains c
  | inter s t, c => s.contains c && t.contains c
  | diff s t, c => s.contains c && !t.contains c
  | symmDiff s t, c => s.contains c != t.contains c
  | compl s, c => !s.contains c

/-- About how many steps it takes to recognise a character of a set by its
octets: one for ASCII, and more for the ranges beyond. -/
def weight : CharSet → Nat
  | ranges rs => if rs.all fun (_, last) => last < 128 then 1 else 8 + rs.length
  | anyCase s => s.weight
  | union s t | inter s t | diff s t | symmDiff s t => s.weight + t.weight
  | compl s => max 10 s.weight

def empty : CharSet := ranges []

/-- The set of one character. -/
def ofChar (c : Char) : CharSet := ranges [(c.toNat, c.toNat)]

/-- The characters from a first to a last one. -/
def ofRange (first last : Char) : CharSet := ranges [(first.toNat, last.toNat)]

/-- A set, or all other characters. -/
def negateIf (negated : Bool) (s : CharSet) : CharSet :=
  if negated then s.compl else s

/-- A set, closed under change of case if asked. -/
def anyCaseIf (folded : Bool) (s : CharSet) : CharSet :=
  if folded then s.anyCase else s

/-- The decimal digits of all scripts. -/
def digits : CharSet := ranges Text.Category.decimalNumberRanges

/-- The characters of words. -/
def wordChars : CharSet :=
  union (ranges [(0x30, 0x39), (0x41, 0x5A), (0x5F, 0x5F), (0x61, 0x7A)])
    (ranges Text.wordRanges)

/-- The blank characters. -/
def blanks : CharSet :=
  ranges
    [(0x9, 0xD), (0x20, 0x20), (0x85, 0x85), (0xA0, 0xA0), (0x1680, 0x1680), (0x2000, 0x200A),
      (0x2028, 0x2029), (0x202F, 0x202F), (0x205F, 0x205F), (0x3000, 0x3000)]

/-- The classes of ASCII characters that are written by name in brackets. -/
def ofAsciiName? (name : String) : Option CharSet :=
  match name with
  | "alnum" => some (ranges [(0x30, 0x39), (0x41, 0x5A), (0x61, 0x7A)])
  | "alpha" => some (ranges [(0x41, 0x5A), (0x61, 0x7A)])
  | "ascii" => some (ranges [(0x0, 0x7F)])
  | "blank" => some (ranges [(0x9, 0x9), (0x20, 0x20)])
  | "cntrl" => some (ranges [(0x0, 0x1F), (0x7F, 0x7F)])
  | "digit" => some (ranges [(0x30, 0x39)])
  | "graph" => some (ranges [(0x21, 0x7E)])
  | "lower" => some (ranges [(0x61, 0x7A)])
  | "print" => some (ranges [(0x20, 0x7E)])
  | "punct" => some (ranges [(0x21, 0x2F), (0x3A, 0x40), (0x5B, 0x60), (0x7B, 0x7E)])
  | "space" => some (ranges [(0x9, 0xD), (0x20, 0x20)])
  | "upper" => some (ranges [(0x41, 0x5A)])
  | "word" => some (ranges [(0x30, 0x39), (0x41, 0x5A), (0x5F, 0x5F), (0x61, 0x7A)])
  | "xdigit" => some (ranges [(0x30, 0x39), (0x41, 0x46), (0x61, 0x66)])
  | _ => none

/-- The union of some categories. -/
def ofCategories (categories : List Text.Category) : CharSet :=
  ranges (categories.flatMap Text.Category.ranges)

/-- The cased letters, and all letters. -/
def casedLetters : List Text.Category :=
  [.uppercaseLetter, .lowercaseLetter, .titlecaseLetter]

def letters : List Text.Category :=
  casedLetters ++ [.modifierLetter, .otherLetter]

def marks : List Text.Category :=
  [.nonspacingMark, .spacingMark, .enclosingMark]

def numbers : List Text.Category :=
  [.decimalNumber, .letterNumber, .otherNumber]

def punctuation : List Text.Category :=
  [.connectorPunctuation, .dashPunctuation, .openPunctuation, .closePunctuation,
    .initialPunctuation, .finalPunctuation, .otherPunctuation]

def symbols : List Text.Category :=
  [.mathSymbol, .currencySymbol, .modifierSymbol, .otherSymbol]

def separators : List Text.Category :=
  [.spaceSeparator, .lineSeparator, .paragraphSeparator]

/-- The code points that no category claims. -/
def unassigned : CharSet :=
  compl (ofCategories
    (letters ++ marks ++ numbers ++ punctuation ++ symbols ++ separators ++
      [.control, .format, .privateUse]))

/-- The general categories and their groups by their names, in lower case and
without separators between words. -/
def ofCategoryName? (name : String) : Option CharSet :=
  match name with
  | "any" => some (ranges [(0, 0x10FFFF)])
  | "assigned" => some unassigned.compl
  | "ascii" => some (ranges [(0, 0x7F)])
  | "l" | "letter" => some (ofCategories letters)
  | "lc" | "casedletter" => some (ofCategories casedLetters)
  | "lu" | "uppercaseletter" => some (ofCategories [.uppercaseLetter])
  | "ll" | "lowercaseletter" => some (ofCategories [.lowercaseLetter])
  | "lt" | "titlecaseletter" => some (ofCategories [.titlecaseLetter])
  | "lm" | "modifierletter" => some (ofCategories [.modifierLetter])
  | "lo" | "otherletter" => some (ofCategories [.otherLetter])
  | "m" | "mark" | "combiningmark" => some (ofCategories marks)
  | "mn" | "nonspacingmark" => some (ofCategories [.nonspacingMark])
  | "mc" | "spacingmark" => some (ofCategories [.spacingMark])
  | "me" | "enclosingmark" => some (ofCategories [.enclosingMark])
  | "n" | "number" => some (ofCategories numbers)
  | "nd" | "decimalnumber" | "digit" => some (ofCategories [.decimalNumber])
  | "nl" | "letternumber" => some (ofCategories [.letterNumber])
  | "no" | "othernumber" => some (ofCategories [.otherNumber])
  | "p" | "punctuation" | "punct" => some (ofCategories punctuation)
  | "pc" | "connectorpunctuation" => some (ofCategories [.connectorPunctuation])
  | "pd" | "dashpunctuation" => some (ofCategories [.dashPunctuation])
  | "ps" | "openpunctuation" => some (ofCategories [.openPunctuation])
  | "pe" | "closepunctuation" => some (ofCategories [.closePunctuation])
  | "pi" | "initialpunctuation" => some (ofCategories [.initialPunctuation])
  | "pf" | "finalpunctuation" => some (ofCategories [.finalPunctuation])
  | "po" | "otherpunctuation" => some (ofCategories [.otherPunctuation])
  | "s" | "symbol" => some (ofCategories symbols)
  | "sm" | "mathsymbol" => some (ofCategories [.mathSymbol])
  | "sc" | "currencysymbol" => some (ofCategories [.currencySymbol])
  | "sk" | "modifiersymbol" => some (ofCategories [.modifierSymbol])
  | "so" | "othersymbol" => some (ofCategories [.otherSymbol])
  | "z" | "separator" => some (ofCategories separators)
  | "zs" | "spaceseparator" => some (ofCategories [.spaceSeparator])
  | "zl" | "lineseparator" => some (ofCategories [.lineSeparator])
  | "zp" | "paragraphseparator" => some (ofCategories [.paragraphSeparator])
  | "cc" | "control" | "cntrl" => some (ofCategories [.control])
  | "cf" | "format" => some (ofCategories [.format])
  | "co" | "privateuse" => some (ofCategories [.privateUse])
  | "cn" | "unassigned" => some unassigned
  | "c" | "other" =>
      some (union unassigned (ofCategories [.control, .format, .privateUse]))
  | _ => none

end CharSet

end ImageBuild.Pattern
