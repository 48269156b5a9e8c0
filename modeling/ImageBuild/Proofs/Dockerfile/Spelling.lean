import ImageBuild.Proofs.Dockerfile.Words

/-!
# How words are spelled

A word is spelled in pieces: bare characters, characters behind a backslash, and runs in double
or in single quotes.  Each piece adds to the word what it denotes, whatever stands behind it, so
a word may mix pieces of all kinds, and a word that is only an empty run is empty.

* `Piece.wordsFrom_spelled`: one piece.
* `wordsFrom_quoted`: a text in double quotes, as a piece that denotes it.
* `wordsFrom_pieces`, `wordsFrom_gap`: the pieces of a word, and what ends it.
* `splitWords_spelled`: texts of spelled words.
-/

namespace ImageBuild.Dockerfile

/-- A character that stands for itself between double quotes, or any one behind a backslash. -/
inductive Mark where
  | plain (c : Char) (ne_quote : c ≠ '"') (ne_backslash : c ≠ '\\')
  | escaped (c : Char)

namespace Mark

/-- How a mark is written. -/
def spelled : Mark → List Char
  | plain c _ _ => [c]
  | escaped c => ['\\', c]

/-- The character that a mark stands for. -/
def denoted : Mark → Char
  | plain c _ _ => c
  | escaped c => c

end Mark

/-- A character that stands for itself outside of quotes. -/
structure IsBare (c : Char) : Prop where
  ne_backslash : c ≠ '\\'
  not_quote : ¬ (c = '"' ∨ c = '\x27')
  not_blank : Text.isBlank c = false

/-- A part of a word.  Runs in quotes may be empty. -/
inductive Piece where
  | bare (c : Char) (isBare : IsBare c)
  | escaped (c : Char)
  | double (marks : List Mark)
  | single (run : List Char) (free : '\x27' ∉ run)

namespace Piece

/-- How a piece is written. -/
def spelled : Piece → List Char
  | bare c _ => [c]
  | escaped c => ['\\', c]
  | double marks => '"' :: (marks.flatMap Mark.spelled ++ ['"'])
  | single run _ => '\x27' :: (run ++ ['\x27'])

/-- What a piece adds to its word. -/
def denoted : Piece → List Char
  | bare c _ => [c]
  | escaped c => [c]
  | double marks => marks.map Mark.denoted
  | single run _ => run

end Piece

/-- A word in pieces, with the blanks in front of it. -/
structure SpelledWord where
  blanks : List Char
  pieces : List Piece
  isBlank : ∀ c ∈ blanks, Text.isBlank c = true
  pieces_ne_nil : pieces ≠ []

namespace SpelledWord

/-- How a word is written, with the blanks in front of it. -/
def spelled (w : SpelledWord) : List Char :=
  w.blanks ++ w.pieces.flatMap Piece.spelled

/-- The word itself. -/
def denoted (w : SpelledWord) : List Char :=
  w.pieces.flatMap Piece.denoted

end SpelledWord

variable {word : Option (List Char)} {done rest gap : List Char}

/-! ## Pieces -/

/-- A mark adds its character to the word. -/
theorem Mark.wordsFrom_spelled (mark : Mark) :
    wordsFrom (some '"') word (mark.spelled ++ rest) =
      wordsFrom (some '"') (some (word.getD [] ++ [mark.denoted])) rest := by
  cases mark with
  | plain c hquote hslash => exact wordsFrom_inside hquote fun h => hslash h.1
  | escaped c => exact wordsFrom_escape_inside

/-- Marks up to the quote that closes them are a part of the word. -/
theorem wordsFrom_marks (marks : List Mark) :
    wordsFrom (some '"') (some done) (marks.flatMap Mark.spelled ++ '"' :: rest) =
      wordsFrom none (some (done ++ marks.map Mark.denoted)) rest := by
  -- Each mark moves from the text to what has been read, so the induction changes the word.
  induction marks generalizing done with
  | nil => rw [List.flatMap_nil, List.nil_append, wordsFrom_close, List.map_nil, List.append_nil]
  | cons mark more ih =>
      rw [List.flatMap_cons, List.append_assoc, mark.wordsFrom_spelled, ih, List.map_cons,
        Option.getD_some, List.append_assoc, List.singleton_append]

/-- Between single quotes there are no escapes. -/
theorem wordsFrom_run {run : List Char} (hfree : '\x27' ∉ run) :
    wordsFrom (some '\x27') (some done) (run ++ '\x27' :: rest) =
      wordsFrom none (some (done ++ run)) rest := by
  induction run generalizing done with
  | nil => rw [List.nil_append, wordsFrom_close, List.append_nil]
  | cons c more ih =>
      rw [List.mem_cons, not_or] at hfree
      obtain ⟨hfirst, hmore⟩ := hfree
      rw [List.cons_append, wordsFrom_inside (Ne.symm hfirst) (by simp), ih hmore,
        Option.getD_some, List.append_assoc, List.singleton_append]

/-- **A piece adds what it denotes to the word in which it stands.** -/
theorem Piece.wordsFrom_spelled (p : Piece) :
    wordsFrom none word (p.spelled ++ rest) =
      wordsFrom none (some (word.getD [] ++ p.denoted)) rest := by
  cases p with
  | bare c hbare => exact wordsFrom_outside hbare.ne_backslash hbare.not_quote hbare.not_blank
  | escaped c => exact wordsFrom_escape
  | double marks =>
      rw [spelled, denoted, List.cons_append, List.append_assoc, List.singleton_append,
        wordsFrom_open (.inl rfl), wordsFrom_marks]
  | single run hfree =>
      rw [spelled, denoted, List.cons_append, List.append_assoc, List.singleton_append,
        wordsFrom_open (.inr rfl), wordsFrom_run hfree]

theorem wordsFrom_more_pieces (pieces : List Piece) :
    wordsFrom none (some done) (pieces.flatMap Piece.spelled ++ rest) =
      wordsFrom none (some (done ++ pieces.flatMap Piece.denoted)) rest := by
  induction pieces generalizing done with
  | nil => simp
  | cons p more ih =>
      rw [List.flatMap_cons, List.append_assoc, p.wordsFrom_spelled, ih, List.flatMap_cons,
        Option.getD_some, List.append_assoc]

/-- Pieces make up one word. -/
theorem wordsFrom_pieces {pieces : List Piece} (h : pieces ≠ []) :
    wordsFrom none none (pieces.flatMap Piece.spelled ++ rest) =
      wordsFrom none (some (pieces.flatMap Piece.denoted)) rest := by
  -- The first piece begins the word, also where it denotes nothing.
  obtain ⟨p, more, rfl⟩ := List.exists_cons_of_ne_nil h
  rw [List.flatMap_cons, List.append_assoc, p.wordsFrom_spelled, wordsFrom_more_pieces,
    List.flatMap_cons]
  rfl

/-! ## Quoted texts -/

/-- A character as it is written between double quotes. -/
def escapeChar (c : Char) : List Char :=
  if c = '"' ∨ c = '\\' then ['\\', c] else [c]

/-- A text in double quotes. -/
def quoted (text : List Char) : List Char :=
  '"' :: (text.flatMap escapeChar ++ ['"'])

/-- The mark that writes a character. -/
def Mark.ofChar (c : Char) : Mark :=
  if h : c = '"' ∨ c = '\\' then escaped c
  else plain c (not_or.mp h).1 (not_or.mp h).2

theorem Mark.spelled_ofChar (c : Char) : (ofChar c).spelled = escapeChar c := by
  unfold ofChar escapeChar
  split
  · rfl
  · rfl

theorem Mark.denoted_ofChar (c : Char) : (ofChar c).denoted = c := by
  unfold ofChar
  split
  · rfl
  · rfl

/-- **A quoted text is read as the text, as a part of the word it stands in.** -/
theorem wordsFrom_quoted (text : List Char) :
    wordsFrom none word (quoted text ++ rest) =
      wordsFrom none (some (word.getD [] ++ text)) rest := by
  have hspelled : quoted text = (Piece.double (text.map Mark.ofChar)).spelled := by
    simp [quoted, Piece.spelled, List.flatMap_map, Mark.spelled_ofChar]
  have hdenoted : (Piece.double (text.map Mark.ofChar)).denoted = text := by
    simp [Piece.denoted, Function.comp_def, Mark.denoted_ofChar]
  rw [hspelled, Piece.wordsFrom_spelled, hdenoted]

/-! ## Gaps -/

/-- A gap between words. -/
def IsGap (gap : List Char) : Prop :=
  gap ≠ [] ∧ ∀ c ∈ gap, Text.isBlank c = true

theorem wordsFrom_blanks (h : ∀ c ∈ gap, Text.isBlank c = true) :
    wordsFrom none none (gap ++ rest) = wordsFrom none none rest := by
  induction gap with
  | nil => rfl
  | cons c more ih =>
      rw [List.cons_append, wordsFrom_blank (h c List.mem_cons_self)]
      exact ih fun d hd => h d (List.mem_cons_of_mem _ hd)

theorem wordsFrom_gap (h : IsGap gap) :
    wordsFrom none (some done) (gap ++ rest) = done :: wordsFrom none none rest := by
  obtain ⟨hne, hblank⟩ := h
  cases gap with
  | nil => exact absurd rfl hne
  | cons c more =>
      rw [List.cons_append, wordsFrom_blank (hblank c List.mem_cons_self),
        wordsFrom_blanks fun d hd => hblank d (List.mem_cons_of_mem _ hd)]
      rfl

/-! ## Words -/

/-- Blanks behind the last word end it and nothing else. -/
theorem wordsFrom_trailing {trailing : List Char}
    (h : ∀ c ∈ trailing, Text.isBlank c = true) :
    wordsFrom none (some done) trailing = [done] := by
  by_cases hnone : trailing = []
  · rw [hnone, wordsFrom_nil]
    rfl
  · have hgap : wordsFrom none (some done) (trailing ++ []) = done :: wordsFrom none none [] :=
      wordsFrom_gap ⟨hnone, h⟩
    rwa [List.append_nil, wordsFrom_nil] at hgap

/-- A word that has been begun ends where the next one has blanks in front of it. -/
theorem wordsFrom_more_words (more : List SpelledWord) {trailing : List Char}
    (hgaps : ∀ w ∈ more, w.blanks ≠ []) (htrailing : ∀ c ∈ trailing, Text.isBlank c = true) :
    wordsFrom none (some done) (more.flatMap SpelledWord.spelled ++ trailing) =
      done :: more.map SpelledWord.denoted := by
  -- The word that is open at each step is the one that the step before has read.
  induction more generalizing done with
  | nil => exact wordsFrom_trailing htrailing
  | cons w rest ih =>
      have hgap : IsGap w.blanks := ⟨hgaps w List.mem_cons_self, w.isBlank⟩
      rw [List.flatMap_cons, SpelledWord.spelled, List.append_assoc, List.append_assoc,
        wordsFrom_gap hgap, wordsFrom_pieces w.pieces_ne_nil,
        ih fun v hv => hgaps v (List.mem_cons_of_mem _ hv)]
      rfl

/-- **Spelled words are read as what they denote.**  They may be spelled in any pieces, with any
blanks between them, and with or without blanks at the two ends. -/
theorem splitWords_spelled (words : List SpelledWord) (trailing : List Char)
    (hgaps : ∀ w ∈ words.tail, w.blanks ≠ [])
    (htrailing : ∀ c ∈ trailing, Text.isBlank c = true) :
    splitWords (words.flatMap SpelledWord.spelled ++ trailing) =
      words.map SpelledWord.denoted := by
  unfold splitWords
  cases words with
  | nil =>
      have hblanks : wordsFrom none none (trailing ++ []) = wordsFrom none none [] :=
        wordsFrom_blanks htrailing
      rwa [List.append_nil, wordsFrom_nil] at hblanks
  | cons w more =>
      -- Blanks in front of the first word end no word, so there may be none.
      rw [List.flatMap_cons, SpelledWord.spelled, List.append_assoc, List.append_assoc,
        wordsFrom_blanks w.isBlank, wordsFrom_pieces w.pieces_ne_nil,
        wordsFrom_more_words more hgaps htrailing]
      rfl

/-- A word in pieces of all kinds, and an empty one behind a tab. -/
def mixedWords : List SpelledWord :=
  [{ blanks := [' ']
     pieces := [
       .bare 'a' ⟨by decide, by decide, by decide⟩,
       .double
         [.plain 'b' (by decide) (by decide), .escaped '"', .plain ' ' (by decide) (by decide)],
       .escaped ' ',
       .single ['\\', '"'] (by decide)]
     isBlank := by simp [Text.isBlank]
     pieces_ne_nil := List.cons_ne_nil _ _ },
   { blanks := ['\t']
     pieces := [.double []]
     isBlank := by simp [Text.isBlank]
     pieces_ne_nil := List.cons_ne_nil _ _ }]

/-- Blanks and quotes of the other kind are ordinary in quotes, and the empty word counts. -/
theorem splitWords_spelled_mixed :
    (∀ w ∈ mixedWords.tail, w.blanks ≠ []) ∧
      splitWords " a\"b\\\" \"\\ '\\\"'\t\"\" ".toList = ["ab\"  \\\"".toList, []] := by
  have hgaps : ∀ w ∈ mixedWords.tail, w.blanks ≠ [] := by
    intro w hw
    rw [List.mem_singleton.mp hw]
    decide
  exact ⟨hgaps, splitWords_spelled mixedWords [' '] hgaps (by simp [Text.isBlank])⟩

end ImageBuild.Dockerfile
