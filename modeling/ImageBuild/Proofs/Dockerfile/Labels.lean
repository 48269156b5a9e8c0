import ImageBuild.Dockerfile.Content
import ImageBuild.Proofs.Dockerfile.Spelling
import ImageBuild.Proofs.Text.Cut
import ImageBuild.Proofs.Text.Lines

/-!
# Labels and their written form

A label is written as its name and its value, both quoted, with an equals sign
between them.  Labels that are written with blanks between them are read again,
and what labels are read from any text may be written that way.
-/

namespace ImageBuild.Dockerfile

/-- A name and a value that can be written as a label: the name has no equals sign,
and neither has a line feed. -/
structure IsLabelPair (pair : String × String) : Prop where
  equals_not_mem : '=' ∉ pair.1.toList
  name : '\n' ∉ pair.1.toList
  value : '\n' ∉ pair.2.toList

instance : DecidablePred IsLabelPair := fun pair =>
  decidable_of_iff ('=' ∉ pair.1.toList ∧ '\n' ∉ pair.1.toList ∧ '\n' ∉ pair.2.toList)
    ⟨fun ⟨hequals, hname, hvalue⟩ => ⟨hequals, hname, hvalue⟩,
      fun ⟨hequals, hname, hvalue⟩ => ⟨hequals, hname, hvalue⟩⟩

/-! ## Writing -/

/-- The word that a label is. -/
def wordOf (pair : String × String) : List Char :=
  pair.1.toList ++ '=' :: pair.2.toList

/-- The written form of a label. -/
def writePair (pair : String × String) : List Char :=
  quoted pair.1.toList ++ '=' :: quoted pair.2.toList

/-- Labels behind another one, each with the gap in front of it. -/
def writeMore (more : List (List Char × (String × String))) : List Char :=
  more.flatMap fun entry => entry.1 ++ writePair entry.2

variable {word rest : List Char}

theorem wordsFrom_writePair (pair : String × String) :
    wordsFrom none none (writePair pair ++ rest) = wordsFrom none (some (wordOf pair)) rest := by
  rw [writePair, List.append_assoc, wordsFrom_quoted, List.cons_append,
    wordsFrom_outside (by decide) (by decide) (by decide), wordsFrom_quoted]
  simp only [Option.getD_none, Option.getD_some, List.nil_append, List.append_assoc,
    List.singleton_append]
  rfl

/-- Labels with gaps between them are read word by word. -/
theorem splitWords_write (first : String × String)
    {more : List (List Char × (String × String))} (hgaps : ∀ entry ∈ more, IsGap entry.1) :
    splitWords (writePair first ++ writeMore more) =
      (first :: more.map Prod.snd).map wordOf := by
  rw [splitWords, wordsFrom_writePair]
  induction more generalizing first with
  | nil => simp [writeMore]
  | cons entry more ih =>
      have hmore : writeMore (entry :: more) =
          entry.1 ++ (writePair entry.2 ++ writeMore more) := by
        simp [writeMore]
      rw [hmore, wordsFrom_gap (hgaps entry List.mem_cons_self), wordsFrom_writePair,
        ih entry.2 fun other h => hgaps other (List.mem_cons_of_mem _ h)]
      rfl

theorem pairOfWord?_wordOf {pair : String × String} (h : IsLabelPair pair) :
    pairOfWord? (wordOf pair) = some pair := by
  rw [pairOfWord?, wordOf, Text.cutFirst_append h.equals_not_mem]
  simp

theorem filterMap_pairOfWord?_map_wordOf {pairs : List (String × String)}
    (h : ∀ pair ∈ pairs, IsLabelPair pair) :
    (pairs.map wordOf).filterMap pairOfWord? = pairs := by
  induction pairs with
  | nil => rfl
  | cons pair rest ih =>
      rw [List.map_cons, List.filterMap_cons_some (pairOfWord?_wordOf (h pair List.mem_cons_self)),
        ih fun other hother => h other (List.mem_cons_of_mem _ hother)]

/-- **Written labels are read again.** -/
theorem labelPairs_write (first : String × String)
    {more : List (List Char × (String × String))} (hgaps : ∀ entry ∈ more, IsGap entry.1)
    (hpairs : ∀ pair ∈ first :: more.map Prod.snd, IsLabelPair pair) :
    labelPairs (writePair first ++ writeMore more) = first :: more.map Prod.snd := by
  have hequals : (wordOf first).contains '=' = true := by
    simp [wordOf]
  rw [labelPairs, splitWords_write first hgaps]
  simp only [List.map_cons, hequals, if_true]
  exact filterMap_pairOfWord?_map_wordOf hpairs

/-! ## Reading -/

theorem mem_of_mem_joinWords {words : List (List Char)} {c : Char} (hc : c ∈ joinWords words) :
    c = ' ' ∨ ∃ w ∈ words, c ∈ w := by
  induction words with
  | nil => cases hc
  | cons w rest ih =>
      cases rest with
      | nil => exact .inr ⟨w, List.mem_cons_self, hc⟩
      | cons v more =>
          rw [joinWords, List.mem_append, List.mem_cons] at hc
          · rcases hc with hc | hc | hc
            · exact .inr ⟨w, List.mem_cons_self, hc⟩
            · exact .inl hc
            · rcases ih hc with hc | ⟨u, hu, hc⟩
              · exact .inl hc
              · exact .inr ⟨u, List.mem_cons_of_mem _ hu, hc⟩
          · exact List.cons_ne_nil v more

theorem isLabelPair_of_pairOfWord? {pair : String × String} (hline : '\n' ∉ word)
    (h : pairOfWord? word = some pair) : IsLabelPair pair := by
  obtain ⟨⟨name, value⟩, hcut, rfl⟩ := Option.map_eq_some_iff.mp h
  obtain ⟨rfl, hfree⟩ := Text.cutFirst_eq_some_iff.mp hcut
  rw [List.mem_append, List.mem_cons, not_or, not_or] at hline
  obtain ⟨hname, -, hvalue⟩ := hline
  constructor
  · rw [String.toList_ofList]
    exact hfree
  · rw [String.toList_ofList]
    exact hname
  · rw [String.toList_ofList]
    exact hvalue

/-- **What is read from a text without line feeds can be written as labels.** -/
theorem isLabelPair_of_mem_labelPairs {arguments : List Char} {pair : String × String}
    (hline : '\n' ∉ arguments) (h : pair ∈ labelPairs arguments) : IsLabelPair pair := by
  have hwords (w : List Char) (hw : w ∈ splitWords arguments) : '\n' ∉ w :=
    fun hmem => hline (mem_of_mem_splitWords hw hmem)
  unfold labelPairs at h
  cases hsplit : splitWords arguments with
  | nil =>
      rw [hsplit] at h
      cases h
  | cons first rest =>
      rw [hsplit] at h hwords
      simp only at h
      -- Without an equals sign the first word is the name and the others are its value.
      by_cases hequals : first.contains '=' = true
      · rw [if_pos hequals] at h
        obtain ⟨w, hw, hpair⟩ := List.mem_filterMap.mp h
        exact isLabelPair_of_pairOfWord? (hwords w hw) hpair
      · rw [if_neg hequals, List.mem_singleton] at h
        subst h
        constructor
        · rw [String.toList_ofList]
          simpa using hequals
        · rw [String.toList_ofList]
          exact hwords first List.mem_cons_self
        · rw [String.toList_ofList]
          intro hmem
          rcases mem_of_mem_joinWords hmem with hspace | ⟨w, hw, hmem⟩
          · cases hspace
          · exact hwords w (List.mem_cons_of_mem _ hw) hmem

end ImageBuild.Dockerfile
