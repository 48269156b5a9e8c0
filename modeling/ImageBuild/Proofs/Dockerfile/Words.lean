import ImageBuild.Dockerfile.Words

/-!
# Words, character by character

One equation for each way in which a character is read.  No character of a word
comes from anywhere but the text that the word is read from.
-/

namespace ImageBuild.Dockerfile

variable {word : Option (List Char)} {q c : Char} {rest : List Char}

/-! ## Reading one character -/

section Character

-- The character behind a backslash is read with it, so that what follows a character is
-- taken apart as well.
attribute [local simp] wordsFrom

@[simp] theorem wordsFrom_nil (quote : Option Char) (word : Option (List Char)) :
    wordsFrom quote word [] = word.toList := by
  simp

/-- The quote that is open is closed. -/
theorem wordsFrom_close : wordsFrom (some q) word (q :: rest) = wordsFrom none word rest := by
  cases rest with
  | nil => simp
  | cons d more => simp

/-- A backslash between double quotes. -/
theorem wordsFrom_escape_inside :
    wordsFrom (some '"') word ('\\' :: c :: rest) =
      wordsFrom (some '"') (some (word.getD [] ++ [c])) rest := by
  simp

/-- A backslash at the end of a text stands for nothing. -/
theorem wordsFrom_lone_escape {quote : Option Char} (hquote : quote = none ∨ quote = some '"') :
    wordsFrom quote word ['\\'] = [word.getD []] := by
  rcases hquote with rfl | rfl
  · simp
  · simp

/-- Any other character between quotes. -/
theorem wordsFrom_inside (hclose : c ≠ q) (hescape : ¬ (c = '\\' ∧ q = '"')) :
    wordsFrom (some q) word (c :: rest) =
      wordsFrom (some q) (some (word.getD [] ++ [c])) rest := by
  cases rest with
  | nil => simp [hclose, hescape]
  | cons d more => simp [hclose, hescape]

/-- A backslash outside of quotes. -/
theorem wordsFrom_escape :
    wordsFrom none word ('\\' :: c :: rest) =
      wordsFrom none (some (word.getD [] ++ [c])) rest := by
  simp

/-- A quote is opened. -/
theorem wordsFrom_open (hquote : c = '"' ∨ c = '\x27') :
    wordsFrom none word (c :: rest) = wordsFrom (some c) (some (word.getD [])) rest := by
  have hslash : c ≠ '\\' := by
    rcases hquote with rfl | rfl
    · decide
    · decide
  cases rest with
  | nil => simp [hslash, hquote]
  | cons d more => simp [hslash, hquote]

/-- A blank ends a word. -/
theorem wordsFrom_blank (hblank : Text.isBlank c = true) :
    wordsFrom none word (c :: rest) = word.toList ++ wordsFrom none none rest := by
  have hslash : c ≠ '\\' := by
    rintro rfl
    exact absurd hblank (by decide)
  have hquote : ¬ (c = '"' ∨ c = '\x27') := by
    rintro (rfl | rfl)
    · exact absurd hblank (by decide)
    · exact absurd hblank (by decide)
  cases rest with
  | nil => simp [hslash, hquote, hblank]
  | cons d more => simp [hslash, hquote, hblank]

/-- Any other character outside of quotes. -/
theorem wordsFrom_outside (hslash : c ≠ '\\') (hquote : ¬ (c = '"' ∨ c = '\x27'))
    (hblank : Text.isBlank c = false) :
    wordsFrom none word (c :: rest) = wordsFrom none (some (word.getD [] ++ [c])) rest := by
  cases rest with
  | nil => simp [hslash, hquote, hblank]
  | cons d more => simp [hslash, hquote, hblank]

end Character

/-! ## Where characters come from -/

/-- The characters of words are those of the text, and of the word that was begun. -/
theorem mem_of_mem_wordsFrom {quote : Option Char} {text found : List Char} {d : Char}
    (hfound : found ∈ wordsFrom quote word text) (hd : d ∈ found) :
    d ∈ word.getD [] ∨ d ∈ text := by
  have hgrown {begun : List Char} {c : Char} {rest : List Char}
      (h : d ∈ (some (begun ++ [c])).getD [] ∨ d ∈ rest) : d ∈ begun ∨ d ∈ c :: rest := by
    simp only [Option.getD_some, List.mem_append, List.mem_singleton] at h
    rw [List.mem_cons]
    rcases h with (h | h) | h
    · exact .inl h
    · exact .inr (.inl h)
    · exact .inr (.inr h)
  have hbehind {begun : List Char} {c : Char} {rest : List Char}
      (h : d ∈ begun ∨ d ∈ rest) : d ∈ begun ∨ d ∈ c :: rest :=
    h.imp_right (List.mem_cons_of_mem c)
  -- Each character joins the word that was begun, or is left out and moves no other one.
  induction quote, word, text using wordsFrom.induct with
  | case1 quote word =>
      rw [wordsFrom_nil, Option.mem_toList] at hfound
      rw [hfound]
      exact .inl hd
  | case2 word rest q ih =>
      rw [wordsFrom_close] at hfound
      exact hbehind (ih hfound)
  | case3 word c begun q hclose hescape ih =>
      obtain ⟨rfl, rfl⟩ := hescape
      rw [wordsFrom_lone_escape (.inr rfl), List.mem_singleton] at hfound
      exact .inl (hfound ▸ hd)
  | case4 word c begun q hclose hescape escaped rest ih =>
      obtain ⟨rfl, rfl⟩ := hescape
      rw [wordsFrom_escape_inside] at hfound
      exact hbehind (hgrown (ih hfound))
  | case5 word c rest begun q hclose hescape ih =>
      rw [wordsFrom_inside hclose hescape] at hfound
      exact hgrown (ih hfound)
  | case6 word begun ih =>
      rw [wordsFrom_lone_escape (.inl rfl), List.mem_singleton] at hfound
      exact .inl (hfound ▸ hd)
  | case7 word begun c rest ih =>
      rw [wordsFrom_escape] at hfound
      exact hbehind (hgrown (ih hfound))
  | case8 word c rest begun hslash hquote ih =>
      rw [wordsFrom_open hquote] at hfound
      exact hbehind (ih hfound)
  | case9 word c rest hslash hquote hblank ih =>
      rw [wordsFrom_blank hblank, List.mem_append, Option.mem_toList] at hfound
      rcases hfound with hword | hfound
      · rw [hword]
        exact .inl hd
      · exact .inr ((hbehind (ih hfound)).resolve_left List.not_mem_nil)
  | case10 word c rest begun hslash hquote hblank ih =>
      rw [wordsFrom_outside hslash hquote (Bool.eq_false_iff.mpr hblank)] at hfound
      exact hgrown (ih hfound)

/-- The words of a text are made of its characters. -/
theorem mem_of_mem_splitWords {text found : List Char} (hfound : found ∈ splitWords text)
    {d : Char} (hd : d ∈ found) : d ∈ text := by
  rcases mem_of_mem_wordsFrom hfound hd with h | h
  · cases h
  · exact h

end ImageBuild.Dockerfile
