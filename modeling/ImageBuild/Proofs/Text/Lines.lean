import Mathlib.Data.List.TakeWhile
import ImageBuild.Text.Blank

/-!
# Lines, trimming and blanks

How a text falls into lines, and which texts trimming leaves alone: those that
neither begin nor end with a blank.  Without its blanks a text stays the same
when it is trimmed.  `IsWritten` says how lines are written one below the other, and
`IsWritten.map_trim_lines` which of them are found again.
-/

namespace ImageBuild.Text

variable {s a : List Char}

/-! ## Lines -/

/-- A line is what stands in front of the first line feed. -/
theorem lines_append (h : '\n' ∉ a) (s : List Char) : lines (a ++ '\n' :: s) = a :: lines s := by
  induction a with
  | nil => rw [List.nil_append, lines, if_pos rfl]
  | cons c rest ih =>
      have hc : c ≠ '\n' := fun hc => h (hc ▸ List.mem_cons_self)
      rw [List.cons_append, lines, if_neg hc, ih fun hmem => h (List.mem_cons_of_mem _ hmem)]

/-- No line has a line feed in it. -/
theorem not_mem_of_mem_lines {line : List Char} (h : line ∈ lines s) : '\n' ∉ line := by
  induction s generalizing line with
  | nil => cases h
  | cons c rest ih =>
      rw [lines] at h
      by_cases hc : c = '\n'
      · rw [if_pos hc] at h
        rcases List.mem_cons.mp h with rfl | h
        · exact List.not_mem_nil
        · exact ih h
      · rw [if_neg hc] at h
        have hfirst (more : List Char) (hmore : '\n' ∉ more) : '\n' ∉ c :: more := by
          simpa [Ne.symm hc] using hmore
        cases hlines : lines rest with
        | nil =>
            rw [hlines] at h
            rw [List.mem_singleton.mp h]
            exact hfirst [] List.not_mem_nil
        | cons first more =>
            rw [hlines] at h ih
            rcases List.mem_cons.mp h with rfl | h
            · exact hfirst first (ih List.mem_cons_self)
            · exact ih (List.mem_cons_of_mem _ h)

/-- A line feed at the end of a text opens no line. -/
theorem lines_append_newline (h : s.getLast? ≠ some '\n') (hne : s ≠ []) :
    lines (s ++ ['\n']) = lines s := by
  induction s with
  | nil => exact absurd rfl hne
  | cons c rest ih =>
      rw [List.cons_append, lines, lines]
      cases rest with
      | nil =>
          have hc : c ≠ '\n' := by simpa using h
          rw [if_neg hc, if_neg hc]
          rfl
      | cons d more =>
          rw [List.getLast?_cons_cons] at h
          rw [ih h (List.cons_ne_nil d more)]

theorem lines_ne_nil (h : s ≠ []) : lines s ≠ [] := by
  cases s with
  | nil => exact absurd rfl h
  | cons c rest =>
      rw [lines]
      split
      · exact List.cons_ne_nil _ _
      · cases lines rest with
        | nil => exact List.cons_ne_nil _ _
        | cons line more => exact List.cons_ne_nil _ _

/-- Lines behind a line feed do not depend on what is in front of it. -/
theorem lines_append_cons (s a : List Char) :
    lines (s ++ '\n' :: a) = lines (s ++ ['\n']) ++ lines a := by
  induction s with
  | nil => simp [lines]
  | cons c rest ih =>
      have hsome : lines (rest ++ ['\n']) ≠ [] := lines_ne_nil (by simp)
      obtain ⟨line, more, hlines⟩ := List.exists_cons_of_ne_nil hsome
      rw [List.cons_append, List.cons_append, lines, lines, ih, hlines]
      split
      · rfl
      · rfl

/-- A line feed at the end of a text ends its last line, or else an empty one. -/
theorem lines_append_newline_cases (s : List Char) :
    lines (s ++ ['\n']) = lines s ∨ lines (s ++ ['\n']) = lines s ++ [[]] := by
  by_cases hne : s = []
  · right
    rw [hne]
    rfl
  · by_cases hlast : s.getLast? = some '\n'
    · right
      obtain ⟨front, rfl⟩ := List.getLast?_eq_some_iff.mp hlast
      rw [List.append_assoc, List.singleton_append, lines_append_cons]
      rfl
    · left
      exact lines_append_newline hlast hne

/-- A text without line feeds is a line, if it is not empty. -/
theorem lines_eq_singleton (h : '\n' ∉ s) (hne : s ≠ []) : lines s = [s] := by
  have hlast : s.getLast? ≠ some '\n' := fun hlast => h (List.mem_of_getLast? hlast)
  rw [← lines_append_newline hlast hne, lines_append h]
  rfl

/-- Lines that are ended one by one are found again. -/
theorem lines_flatMap_newline {written : List (List Char)} (h : ∀ line ∈ written, '\n' ∉ line) :
    lines (written.flatMap fun line => line ++ ['\n']) = written := by
  induction written with
  | nil => rfl
  | cons line rest ih =>
      have hline : '\n' ∉ line := h line List.mem_cons_self
      have hrest : ∀ other ∈ rest, '\n' ∉ other := fun other hother =>
        h other (List.mem_cons_of_mem _ hother)
      rw [List.flatMap_cons, List.append_assoc, List.singleton_append, lines_append hline, ih hrest]

/-! ## Trimming -/

theorem mem_of_mem_trim {c : Char} (h : c ∈ trim s) : c ∈ s := by
  unfold trim trimRight trimLeft at h
  rw [List.mem_reverse] at h
  have hright := (List.dropWhile_sublist _).subset h
  exact (List.dropWhile_sublist _).subset (List.mem_reverse.mp hright)

/-- A text that begins with no blank has nothing to trim there. -/
theorem trimLeft_eq_self (h : ∀ c ∈ s.head?, isBlank c = false) : trimLeft s = s := by
  cases s with
  | nil => rfl
  | cons c rest => exact List.dropWhile_cons_of_neg (by simp [h c rfl])

theorem trim_cons_blank {c : Char} (hc : isBlank c = true) (s : List Char) :
    trim (c :: s) = trim s := by
  unfold trim trimLeft
  rw [List.dropWhile_cons_of_pos hc]

theorem trimRight_cons {c : Char} (hc : isBlank c = false) (s : List Char) :
    trimRight (c :: s) = c :: trimRight s := by
  unfold trimRight
  rw [List.reverse_cons, List.dropWhile_append]
  split
  · rename_i hnil
    rw [List.isEmpty_iff.mp hnil]
    simp [hc]
  · simp

/-- A text that begins with no blank is trimmed at its end. -/
theorem trim_cons {c : Char} (hc : isBlank c = false) (s : List Char) :
    trim (c :: s) = c :: trimRight s := by
  have hleft : trimLeft (c :: s) = c :: s := List.dropWhile_cons_of_neg (by simp [hc])
  rw [trim, hleft, trimRight_cons hc]

theorem trimRight_eq_self (h : ∀ c ∈ s.getLast?, isBlank c = false) : trimRight s = s := by
  have hreverse : trimLeft s.reverse = s.reverse := by
    apply trimLeft_eq_self
    rwa [List.head?_reverse]
  unfold trimRight
  rw [← trimLeft, hreverse, List.reverse_reverse]

/-- A text between two characters that are not blank is left alone by trimming. -/
theorem trim_eq_self (hhead : ∀ c ∈ s.head?, isBlank c = false)
    (hlast : ∀ c ∈ s.getLast?, isBlank c = false) : trim s = s := by
  rw [trim, trimLeft_eq_self hhead, trimRight_eq_self hlast]

theorem isBlank_of_mem_getLast?_trimRight (s : List Char) :
    ∀ c ∈ (trimRight s).getLast?, isBlank c = false := by
  intro c hc
  rw [trimRight, List.getLast?_reverse] at hc
  have hfirst := List.head?_dropWhile_not isBlank s.reverse
  rw [Option.mem_def.mp hc] at hfirst
  exact hfirst

/-- What is left by trimming does not begin with a blank. -/
theorem isBlank_of_mem_head?_trim (s : List Char) :
    ∀ c ∈ (trim s).head?, isBlank c = false := by
  have hfirst := List.head?_dropWhile_not isBlank s
  intro c hc
  unfold trim trimLeft at hc
  cases hleft : s.dropWhile isBlank with
  | nil =>
      rw [hleft] at hc
      cases hc
  | cons first rest =>
      rw [hleft] at hfirst hc
      have hblank : isBlank first = false := hfirst
      rw [trimRight_cons hblank] at hc
      cases hc
      exact hblank

/-- Nothing is left to be trimmed. -/
theorem trim_trim (s : List Char) : trim (trim s) = trim s :=
  trim_eq_self (isBlank_of_mem_head?_trim s) (isBlank_of_mem_getLast?_trimRight (trimLeft s))

/-! ## Blanks -/

/-- A text without its blanks. -/
def withoutBlanks (s : List Char) : List Char :=
  s.filter fun c => !isBlank c

@[simp] theorem withoutBlanks_nil : withoutBlanks [] = [] := rfl

@[simp] theorem withoutBlanks_append (s a : List Char) :
    withoutBlanks (s ++ a) = withoutBlanks s ++ withoutBlanks a :=
  List.filter_append s a

theorem withoutBlanks_eq_nil_iff : withoutBlanks s = [] ↔ ∀ c ∈ s, isBlank c = true := by
  simp [withoutBlanks]

/-- The first character of a text is the first one without its blanks, unless it is one. -/
theorem head?_withoutBlanks (h : ∀ c ∈ s.head?, isBlank c = false) :
    (withoutBlanks s).head? = s.head? := by
  cases s with
  | nil => rfl
  | cons c rest => simp [withoutBlanks, h c rfl]

theorem withoutBlanks_trimLeft (s : List Char) : withoutBlanks (trimLeft s) = withoutBlanks s := by
  induction s with
  | nil => rfl
  | cons c rest ih =>
      unfold trimLeft at ih ⊢
      by_cases hc : isBlank c = true
      · rw [List.dropWhile_cons_of_pos hc, ih]
        simp [withoutBlanks, hc]
      · rw [List.dropWhile_cons_of_neg hc]

/-- Trimming takes nothing but blanks away. -/
@[simp] theorem withoutBlanks_trim (s : List Char) : withoutBlanks (trim s) = withoutBlanks s := by
  have hreverse (t : List Char) : withoutBlanks t.reverse = (withoutBlanks t).reverse :=
    List.filter_reverse
  rw [trim, trimRight, ← trimLeft, hreverse, withoutBlanks_trimLeft, hreverse, List.reverse_reverse,
    withoutBlanks_trimLeft]

theorem trimLeft_eq_nil_iff : trimLeft s = [] ↔ withoutBlanks s = [] := by
  rw [trimLeft, List.dropWhile_eq_nil_iff, withoutBlanks_eq_nil_iff]

theorem trimRight_append (h : withoutBlanks a = []) (s : List Char) :
    trimRight (s ++ a) = trimRight s := by
  have hblank : ∀ c ∈ a.reverse, isBlank c = true := fun c hc =>
    withoutBlanks_eq_nil_iff.mp h c (List.mem_reverse.mp hc)
  rw [trimRight, List.reverse_append, List.dropWhile_append_of_pos hblank, ← trimRight]

theorem trim_eq_nil_iff : trim s = [] ↔ withoutBlanks s = [] := by
  constructor
  · intro h
    rw [← withoutBlanks_trim, h]
    rfl
  · intro h
    rw [trim, trimLeft_eq_nil_iff.mpr h]
    rfl

/-- Blanks in front of a text are trimmed. -/
theorem trim_blanks_append (h : withoutBlanks a = []) (s : List Char) : trim (a ++ s) = trim s := by
  have hleft : trimLeft (a ++ s) = trimLeft s :=
    List.dropWhile_append_of_pos (withoutBlanks_eq_nil_iff.mp h)
  rw [trim, hleft, ← trim]

/-- Blanks behind a text are trimmed. -/
theorem trim_append_blanks (h : withoutBlanks a = []) (s : List Char) : trim (s ++ a) = trim s := by
  by_cases hs : withoutBlanks s = []
  · have hboth : withoutBlanks (s ++ a) = [] := by
      rw [withoutBlanks_append, hs, h]
      rfl
    rw [trim_eq_nil_iff.mpr hboth, trim_eq_nil_iff.mpr hs]
  · have hleft : trimLeft (s ++ a) = trimLeft s ++ a := by
      have hsome : ¬ (s.dropWhile isBlank).isEmpty = true := by
        rw [List.isEmpty_iff]
        exact fun hnil => hs (trimLeft_eq_nil_iff.mp hnil)
      rw [trimLeft, List.dropWhile_append, if_neg hsome, ← trimLeft]
    rw [trim, hleft, trimRight_append h, ← trim]

/-! ## Texts that are written line by line -/

/-- A text consists of lines.  A line feed ends a line, perhaps behind a carriage return; the last
line need not be ended. -/
inductive IsWritten : List (List Char) → List Char → Prop where
  | nil : IsWritten [] []
  | unended {line : List Char} (hline : '\n' ∉ line) : IsWritten [line] line
  | ended {line lineEnd text : List Char} {written : List (List Char)} (hline : '\n' ∉ line)
      (hend : lineEnd = ['\n'] ∨ lineEnd = ['\r', '\n']) (rest : IsWritten written text) :
      IsWritten (line :: written) (line ++ lineEnd ++ text)

/-- The first line of a text, whichever way it is ended. -/
theorem map_trim_lines_ended {line lineEnd : List Char} (hline : '\n' ∉ line)
    (hend : lineEnd = ['\n'] ∨ lineEnd = ['\r', '\n']) (text : List Char) :
    (lines (line ++ lineEnd ++ text)).map trim = trim line :: (lines text).map trim := by
  rcases hend with rfl | rfl
  · rw [List.append_assoc, List.singleton_append, lines_append hline, List.map_cons]
  · -- The carriage return stays with the line and is trimmed.
    have hreturn : '\n' ∉ line ++ ['\r'] := by simpa using hline
    have hblank : withoutBlanks ['\r'] = [] := rfl
    have hsplit : line ++ ['\r', '\n'] ++ text = (line ++ ['\r']) ++ '\n' :: text := by simp
    rw [hsplit, lines_append hreturn, List.map_cons, trim_append_blanks hblank]

/-- The lines of a text are those that it was written from, up to blanks at their ends; only an
empty one that is not ended leaves no line behind. -/
theorem IsWritten.map_trim_lines {written : List (List Char)} {text : List Char}
    (h : IsWritten written text) :
    (lines text).map trim = written.map trim ∨
      (lines text).map trim ++ [[]] = written.map trim := by
  induction h with
  | nil => exact .inl rfl
  | @unended line hline =>
      by_cases hempty : line = []
      · right
        rw [hempty]
        rfl
      · left
        rw [lines_eq_singleton hline hempty]
  | ended hline hend rest ih =>
      rw [map_trim_lines_ended hline hend, List.map_cons]
      rcases ih with ih | ih
      · exact .inl (by rw [ih])
      · exact .inr (by rw [← ih, List.cons_append])

end ImageBuild.Text
