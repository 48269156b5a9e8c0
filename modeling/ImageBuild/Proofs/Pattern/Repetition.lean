import Mathlib
import ImageBuild.Pattern.Basic

/-!
# Repetitions and anchors

Behind a start of text a search has only one place to begin at, and a repetition
of single characters in front of an end of text has to go through all that is
left.  Together they say what a pattern means that takes a text as a whole.
-/

namespace ImageBuild.Pattern

open Progress

/-! ## Ways without duplicates -/

theorem dedup_cons (w : Progress) (ways : List Progress) :
    dedup (w :: ways) = w :: (dedup ways).filter fun v => !w.sameAs v := rfl

theorem mem_of_mem_dedup {w : Progress} {ways : List Progress} (h : w ∈ dedup ways) :
    w ∈ ways := by
  induction ways with
  | nil => exact h
  | cons v rest ih =>
      rw [dedup_cons, List.mem_cons, List.mem_filter] at h
      rcases h with h | ⟨h, -⟩
      · exact h ▸ List.mem_cons_self
      · exact List.mem_cons_of_mem v (ih h)

/-- Leaving out duplicates keeps some way with a property that duplicates share. -/
theorem exists_mem_dedup_iff {P : Progress → Prop} {ways : List Progress}
    (hP : ∀ v ∈ ways, ∀ w ∈ ways, v.sameAs w = true → P w → P v) :
    (∃ w ∈ dedup ways, P w) ↔ ∃ w ∈ ways, P w := by
  constructor
  · rintro ⟨w, hw, h⟩
    exact ⟨w, mem_of_mem_dedup hw, h⟩
  · intro hex
    induction ways with
    | nil => simp at hex
    | cons v rest ih =>
        by_cases hv : P v
        · exact ⟨v, by simp [dedup_cons], hv⟩
        · have hrest : ∃ w ∈ rest, P w := by
            obtain ⟨w, hw, h⟩ := hex
            rcases List.mem_cons.mp hw with rfl | hw
            · exact absurd h hv
            · exact ⟨w, hw, h⟩
          -- A way that is left out is a duplicate of `v`, which would then have the property.
          obtain ⟨w, hw, h⟩ := ih
            (fun u hu w hw => hP u (List.mem_cons_of_mem v hu) w (List.mem_cons_of_mem v hw)) hrest
          have hne : v.sameAs w = false := by
            cases hsame : v.sameAs w with
            | false => rfl
            | true =>
                have hmem := List.mem_cons_of_mem v (mem_of_mem_dedup hw)
                exact absurd (hP v List.mem_cons_self w hmem hsame h) hv
          exact ⟨w, by simp [dedup_cons, hw, hne], h⟩

theorem dedup_eq_nil_iff {ways : List Progress} : dedup ways = [] ↔ ways = [] := by
  cases ways with
  | nil => simp [dedup]
  | cons w rest => simp [dedup_cons]

/-! ## Pieces of patterns -/

/-- A sequence fails where its second part fails behind all that the first one
reaches. -/
theorem run_sequence_eq_nil_iff {first second : Node} {p : Progress} :
    (Node.sequence first second).run p = [] ↔ ∀ q ∈ first.run p, second.run q = [] := by
  rw [Node.run, dedup_eq_nil_iff, List.flatMap_eq_nil_iff]

theorem run_textEnd_eq_nil_iff {p : Progress} :
    (Node.boundary .textEnd).run p = [] ↔ p.place.after ≠ [] := by
  cases h : p.place.after <;> simp [Node.run, Place.meets, h]

/-- The way behind one character. -/
def Progress.behind (p : Progress) (c : Char) (rest : List Char) : Progress :=
  { p with place := ⟨p.place.index + 1, c :: p.place.before, rest⟩ }

theorem run_char {s : CharSet} {p : Progress} {c : Char} {rest : List Char}
    (h : p.place.after = c :: rest) :
    (Node.char s).run p = if s.contains c then [p.behind c rest] else [] := by
  simp [Node.run, Place.next?, h, Progress.behind]

theorem run_char_at_end {s : CharSet} {p : Progress} (h : p.place.after = []) :
    (Node.char s).run p = [] := by
  simp [Node.run, Place.next?, h]

/-- A character always moves on, so a step of a repetition takes it as it is. -/
theorem advance_char {s : CharSet} (p : Progress) :
    advance (moving (Node.char s).run) [p] = (Node.char s).run p := by
  cases h : p.place.after with
  | nil => simp [advance, moving, run_char_at_end h, dedup]
  | cons c rest =>
      by_cases hc : s.contains c
      · simp [advance, moving, run_char h, hc, dedup, Progress.behind]
      · simp [advance, moving, run_char h, hc, dedup]

/-! ## Repetitions of characters -/

/-- The ways of repeating a character from a place on, at most so many times. -/
def charLevels (s : CharSet) (count : Nat) (p : Progress) : List (List Progress) :=
  repeatUpTo (Node.char s).run count [p]

theorem repeatUpTo_nil_flatten (step : Progress → List Progress) (count : Nat) :
    (repeatUpTo step count []).flatten = [] := by
  cases count with
  | zero => rfl
  | succ count => rfl

theorem charLevels_at_end {s : CharSet} {p : Progress} (h : p.place.after = []) (count : Nat) :
    (charLevels s count p).flatten = [p] := by
  cases count with
  | zero => rfl
  | succ count =>
      rw [charLevels, repeatUpTo, advance_char, run_char_at_end h]
      simp [repeatUpTo_nil_flatten]

theorem charLevels_succ {s : CharSet} {p : Progress} {c : Char} {rest : List Char}
    (h : p.place.after = c :: rest) (count : Nat) :
    (charLevels s (count + 1) p).flatten =
      p :: if s.contains c then (charLevels s count (p.behind c rest)).flatten else [] := by
  rw [charLevels, repeatUpTo, advance_char, run_char h]
  by_cases hc : s.contains c
  · simp [hc, charLevels]
  · simp [hc, repeatUpTo_nil_flatten]

/-- All ways of a repetition stand in the same text. -/
theorem index_add_length_of_mem_charLevels {s : CharSet} {count : Nat} {p q : Progress}
    (hq : q ∈ (charLevels s count p).flatten) :
    q.place.index + q.place.after.length = p.place.index + p.place.after.length := by
  induction count generalizing p with
  | zero =>
      have hp : q = p := by simpa [charLevels, repeatUpTo] using hq
      rw [hp]
  | succ count ih =>
      cases h : p.place.after with
      | nil =>
          rw [charLevels_at_end h, List.mem_singleton] at hq
          rw [hq, h]
      | cons c rest =>
          rw [charLevels_succ h] at hq
          rcases List.mem_cons.mp hq with rfl | hq
          · rw [h]
          · split at hq
            · have hbehind := ih hq
              simp only [Progress.behind] at hbehind
              simp only [List.length_cons]
              omega
            · simp at hq

/-- A repetition gets to the end of a text when it may go on for so long and all
characters are in its set. -/
theorem exists_end_charLevels_iff {s : CharSet} {count : Nat} {p : Progress} :
    (∃ q ∈ (charLevels s count p).flatten, q.place.after = []) ↔
      p.place.after.length ≤ count ∧ ∀ c ∈ p.place.after, s.contains c = true := by
  induction count generalizing p with
  | zero =>
      cases h : p.place.after with
      | nil => simp [charLevels, repeatUpTo, h]
      | cons c rest => simp [charLevels, repeatUpTo, h]
  | succ count ih =>
      cases h : p.place.after with
      | nil => simp [charLevels_at_end h, h]
      | cons c rest =>
          rw [charLevels_succ h]
          by_cases hc : s.contains c
          · have hbehind := ih (p := p.behind c rest)
            simp only [hc, if_true, List.mem_cons, exists_eq_or_imp, h, List.cons_ne_nil, false_or,
              forall_eq_or_imp, true_and, List.length_cons, Nat.add_le_add_iff_right]
            exact hbehind
          · simp [hc, h]

/-- Repeating a character up to the end of a text means that the set holds all
that is left, and that this is not more than a repetition may take. -/
theorem run_repeated_char_textEnd_eq_nil_iff {s : CharSet} {most : Option Nat} {p : Progress} :
    (Node.sequence (.repeated (.char s) 0 most true) (.boundary .textEnd)).run p = [] ↔
      ¬ ((∀ n ∈ most, p.place.after.length ≤ n) ∧ ∀ c ∈ p.place.after, s.contains c = true) := by
  obtain ⟨count, hways, hcount⟩ : ∃ count,
      (Node.repeated (.char s) 0 most true).run p = dedup (charLevels s count p).reverse.flatten ∧
        (p.place.after.length ≤ count ↔ ∀ n ∈ most, p.place.after.length ≤ n) := by
    cases most with
    | none => exact ⟨p.place.after.length, by rw [Node.run]; rfl, by simp⟩
    | some n => exact ⟨min n p.place.after.length, by rw [Node.run]; rfl, by simp⟩
  -- Duplicates are at one index of one text, so what is left behind them is equally long.
  have hshared : ∀ v ∈ (charLevels s count p).reverse.flatten,
      ∀ w ∈ (charLevels s count p).reverse.flatten,
        v.sameAs w = true → w.place.after = [] → v.place.after = [] := by
    intro v hv w hw hsame hend
    have hv' := index_add_length_of_mem_charLevels (s := s) (p := p) (q := v) (by simpa using hv)
    have hw' := index_add_length_of_mem_charLevels (s := s) (p := p) (q := w) (by simpa using hw)
    simp only [Progress.sameAs, Bool.and_eq_true, beq_iff_eq] at hsame
    rw [hend] at hw'
    apply List.eq_nil_of_length_eq_zero
    simp only [List.length_nil] at hw'
    omega
  have hreverse : (∃ q ∈ (charLevels s count p).reverse.flatten, q.place.after = []) ↔
      ∃ q ∈ (charLevels s count p).flatten, q.place.after = [] := by
    simp
  rw [run_sequence_eq_nil_iff, hways, ← hcount, ← exists_end_charLevels_iff, ← hreverse,
    ← exists_mem_dedup_iff hshared]
  simp only [run_textEnd_eq_nil_iff, not_exists, not_and]

/-! ## Anchored searches -/

/-- A pattern that begins with a start of text matches nowhere behind it. -/
theorem foundFrom_textStart {n : Node} (fuel : Nat) {place : Place} (h : place.before ≠ []) :
    (Node.sequence (.boundary .textStart) n).foundFrom fuel place = false := by
  have hrun : ∀ place : Place, place.before ≠ [] →
      (Node.sequence (.boundary .textStart) n).run ⟨place, []⟩ = [] := by
    intro place hbefore
    rw [run_sequence_eq_nil_iff]
    simp [Node.run, Place.meets, hbefore]
  -- Wherever the search goes on, there is something in front of the place.
  induction fuel generalizing place with
  | zero => simp [Node.foundFrom, hrun place h]
  | succ fuel ih =>
      cases hafter : place.after with
      | nil => simp [Node.foundFrom, hrun place h, Place.next?, hafter]
      | cons c rest =>
          rw [Node.foundFrom, hrun place h]
          simp only [Place.next?, hafter]
          exact ih (List.cons_ne_nil _ _)

theorem foundIn_textStart {n : Node} {text : List Char} :
    (Node.sequence (.boundary .textStart) n).foundIn text = true ↔
      n.run ⟨Place.start text, []⟩ ≠ [] := by
  have hstart : (Node.sequence (.boundary .textStart) n).run ⟨Place.start text, []⟩ = [] ↔
      n.run ⟨Place.start text, []⟩ = [] := by
    rw [run_sequence_eq_nil_iff]
    simp [Node.run, Place.meets, Place.start]
  unfold Node.foundIn
  cases text with
  | nil => simp [Node.foundFrom, hstart]
  | cons c rest =>
      have hrest : (Node.sequence (.boundary .textStart) n).foundFrom rest.length
          ⟨1, [c], rest⟩ = false :=
        foundFrom_textStart rest.length (List.cons_ne_nil _ _)
      rw [List.length_cons, Node.foundFrom]
      simp only [Place.next?, Place.start] at hrest hstart ⊢
      rw [hrest, Bool.or_false]
      simp [hstart]

end ImageBuild.Pattern
