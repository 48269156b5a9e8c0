/-!
# Similar words

How similar two words are is measured by the characters that they share: each
character of the first word is matched with the first free one of the second that
is equal and not far from its place, and matches out of order count half.
-/

namespace ImageBuild.Text

/-- The place of the first free character that equals a given one, from a first
place on and in front of a last one. -/
def matchFrom? (c : Char) (first last : Nat) (free : List Nat) (word : List Char) : Option Nat :=
  free.find? fun j => first ≤ j && j < last && word[j]? == some c

/-- The matched characters of the first word in order, and the places that they
are matched with. -/
def matchedPairs (reach : Nat) (other : List Char) :
    Nat → List Nat → List Char → List (Char × Nat)
  | _, _, [] => []
  | i, free, c :: rest =>
      match matchFrom? c (i - reach) (i + reach + 1) free other with
      | some j => (c, j) :: matchedPairs reach other (i + 1) (free.erase j) rest
      | none => matchedPairs reach other (i + 1) free rest

/-- The similarity of two words, from 0 to 1. -/
def similarity (a b : List Char) : Float :=
  if a.isEmpty && b.isEmpty then 1
  else
    let reach := max a.length b.length / 2 - 1
    let pairs := matchedPairs reach b 0 (List.range b.length) a
    if pairs.isEmpty then 0
    else
      let places := pairs.map Prod.snd
      let inOrder := (List.range b.length).filterMap fun j =>
        if places.contains j then b[j]? else none
      let crossed := ((pairs.map Prod.fst).zip inOrder).countP fun (c, d) => c != d
      let count := pairs.length.toFloat
      (count / a.length.toFloat + count / b.length.toFloat +
        (pairs.length - crossed / 2).toFloat / count) / 3

/-- Put a word behind all words that are not more similar. -/
def insertSimilar (x : Float × String) : List (Float × String) → List (Float × String)
  | [] => [x]
  | y :: rest => if y.1 > x.1 then x :: y :: rest else y :: insertSimilar x rest

/-- The words that resemble a given one, the most similar last. -/
def similarWords (word : String) (words : List String) : List String :=
  let judged := words.map fun other => (similarity word.toList other.toList, other)
  let near := judged.filter fun (s, _) => s > 0.7
  (near.foldl (fun sorted x => insertSimilar x sorted) []).map Prod.snd

end ImageBuild.Text
