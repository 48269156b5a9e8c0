import ImageBuild.Text.Blank

/-!
# Cutting texts at separators

A text is put together again from the pieces that it is cut into, and none of
the pieces has a separator in it where the cut looked for one.
-/

namespace ImageBuild.Text

variable {sep : Char} {s a b : List Char}

/-! ## The first and the last separator -/

theorem cutFirst_append (h : sep ∉ a) : cutFirst sep (a ++ sep :: b) = some (a, b) := by
  induction a with
  | nil => rw [List.nil_append, cutFirst, if_pos rfl]
  | cons c rest ih =>
      have hc : c ≠ sep := fun hc => h (hc ▸ List.mem_cons_self)
      rw [List.cons_append, cutFirst, if_neg hc, ih fun hmem => h (List.mem_cons_of_mem _ hmem)]
      rfl

/-- A text is cut at its first separator. -/
theorem cutFirst_eq_some_iff : cutFirst sep s = some (a, b) ↔ s = a ++ sep :: b ∧ sep ∉ a := by
  constructor
  · intro h
    induction s generalizing a with
    | nil => cases h
    | cons c rest ih =>
        rw [cutFirst] at h
        by_cases hc : c = sep
        · rw [if_pos hc] at h
          cases h
          exact ⟨congrArg (· :: b) hc, List.not_mem_nil⟩
        · rw [if_neg hc] at h
          obtain ⟨⟨x, y⟩, hcut, heq⟩ := Option.map_eq_some_iff.mp h
          cases heq
          obtain ⟨rfl, hfree⟩ := ih hcut
          exact ⟨rfl, by simpa [Ne.symm hc] using hfree⟩
  · rintro ⟨rfl, hfree⟩
    exact cutFirst_append hfree

theorem cutLast_eq_none_iff : cutLast sep s = none ↔ sep ∉ s := by
  induction s with
  | nil => simp [cutLast]
  | cons c rest ih =>
      rw [cutLast]
      cases hcut : cutLast sep rest with
      | some parts =>
          have hmem : sep ∈ rest := by
            by_cases hmem : sep ∈ rest
            · exact hmem
            · rw [ih.mpr hmem] at hcut
              cases hcut
          simp [hmem]
      | none =>
          by_cases hc : c = sep
          · simp [hc]
          · simp [hc, Ne.symm hc, ih.mp hcut]

theorem cutLast_append (h : sep ∉ b) : cutLast sep (a ++ sep :: b) = some (a, b) := by
  induction a with
  | nil =>
      rw [List.nil_append, cutLast, cutLast_eq_none_iff.mpr h]
      exact if_pos rfl
  | cons c rest ih => rw [List.cons_append, cutLast, ih]

/-- A text is cut at its last separator. -/
theorem cutLast_eq_some_iff : cutLast sep s = some (a, b) ↔ s = a ++ sep :: b ∧ sep ∉ b := by
  constructor
  · intro h
    induction s generalizing a with
    | nil => cases h
    | cons c rest ih =>
        rw [cutLast] at h
        cases hcut : cutLast sep rest with
        | some parts =>
            rw [hcut] at h
            cases h
            obtain ⟨rfl, hfree⟩ := ih hcut
            exact ⟨rfl, hfree⟩
        | none =>
            rw [hcut] at h
            obtain ⟨hc, heq⟩ := Option.ite_none_right_eq_some.mp h
            cases heq
            exact ⟨congrArg (· :: b) hc, cutLast_eq_none_iff.mp hcut⟩
  · rintro ⟨rfl, hfree⟩
    exact cutLast_append hfree

/-! ## All separators -/

/-- Dividing a text at a separator is what the library has for lists. -/
theorem splitOn_eq (sep : Char) (s : List Char) : splitOn sep s = s.splitOn sep := by
  induction s with
  | nil => rfl
  | cons c rest ih =>
      rw [splitOn, ih, List.splitOn_cons_eq_if_modifyHead]
      by_cases hc : c = sep
      · rw [if_pos hc, if_pos (beq_iff_eq.mpr hc)]
      · rw [if_neg hc, if_neg (mt beq_iff_eq.mp hc)]
        cases hpieces : rest.splitOn sep with
        | nil => exact absurd hpieces (List.splitOn_ne_nil sep rest)
        | cons piece more => rfl

/-- The pieces with the separator between them are the text. -/
theorem intercalate_splitOn (sep : Char) (s : List Char) :
    [sep].intercalate (splitOn sep s) = s := by
  rw [splitOn_eq, List.intercalate_splitOn]

/-- No piece has a separator in it. -/
theorem not_mem_of_mem_splitOn {piece : List Char} (h : piece ∈ splitOn sep s) : sep ∉ piece := by
  induction s generalizing piece with
  | nil =>
      rw [splitOn, List.mem_singleton] at h
      rw [h]
      exact List.not_mem_nil
  | cons c rest ih =>
      rw [splitOn] at h
      by_cases hc : c = sep
      · rw [if_pos hc] at h
        rcases List.mem_cons.mp h with rfl | h
        · exact List.not_mem_nil
        · exact ih h
      · rw [if_neg hc] at h
        have hgrown (first : List Char) (hfirst : sep ∉ first) : sep ∉ c :: first := by
          simpa [Ne.symm hc] using hfirst
        cases hpieces : splitOn sep rest with
        | nil =>
            rw [hpieces, List.mem_singleton] at h
            rw [h]
            exact hgrown [] List.not_mem_nil
        | cons first more =>
            rw [hpieces] at h ih
            rcases List.mem_cons.mp h with rfl | h
            · exact hgrown first (ih List.mem_cons_self)
            · exact ih (List.mem_cons_of_mem _ h)

/-- Texts without the separator are the pieces of the text that they make up. -/
theorem splitOn_eq_iff {pieces : List (List Char)} :
    splitOn sep s = pieces ↔
      pieces ≠ [] ∧ (∀ piece ∈ pieces, sep ∉ piece) ∧ [sep].intercalate pieces = s := by
  constructor
  · rintro rfl
    refine ⟨?_, fun piece => not_mem_of_mem_splitOn, intercalate_splitOn sep s⟩
    rw [splitOn_eq]
    exact List.splitOn_ne_nil sep s
  · rintro ⟨hne, hfree, rfl⟩
    rw [splitOn_eq, List.splitOn_intercalate sep hfree hne]

end ImageBuild.Text
