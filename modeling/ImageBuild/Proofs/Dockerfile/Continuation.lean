import Mathlib.Data.List.Induction
import ImageBuild.Proofs.Dockerfile.Instructions

/-!
# Lines that are continued

A line either ends an instruction or leaves it open, as comments and lines with a
backslash at their end do.  Reading is followed line by line, with the text that is
to be continued as the state.

* `ofLines_open` and `ofLines_closing`: what one line of either kind does.
* `ofLines_append`: lines are read one part after the other, and `carried` is all that
  the first part leaves for the second one.
* `exists_text_of_mem_ofLines`: the text of an instruction is put together from what lines say.
* `ofLines_append_empty`: an empty line behind the others ends what is carried.
* `carried_eq_nil`: nothing is carried behind a last line that is not continued.
* `withoutBlanks_carried`: what is carried behind the last line is the text of the
  lines that no other line ends.
-/

namespace ImageBuild.Dockerfile

/-! ## Kinds of lines -/

/-- A line that starts with a number sign. -/
def IsComment (line : List Char) : Prop :=
  (Text.trim line).head? = some '#'

/-- A line that ends no instruction: a comment, or a line with a backslash at its end. -/
def IsOpen (line : List Char) : Prop :=
  IsComment line ∨ (Text.trim line).getLast? = some '\\'

instance : DecidablePred IsComment := fun line =>
  inferInstanceAs (Decidable ((Text.trim line).head? = some '#'))

instance : DecidablePred IsOpen := fun line =>
  inferInstanceAs (Decidable (IsComment line ∨ (Text.trim line).getLast? = some '\\'))

/-- The last line that is no comment, if there is one, has no backslash at its end. -/
def IsEnded (lines : List (List Char)) : Prop :=
  ∀ line ∈ (lines.filter fun line => ¬ IsComment line).getLast?,
    (Text.trim line).getLast? ≠ some '\\'

/-- What a line says: nothing if it is a comment, and else what stands between its
blanks, without one backslash at the end. -/
def lineText (line : List Char) : List Char :=
  if IsComment line then []
  else if (Text.trim line).getLast? = some '\\' then (Text.trim line).dropLast
  else Text.trim line

/-- What an open line adds to the text that is to be continued. -/
def joinedText (line : List Char) : List Char :=
  if IsComment line then [] else (Text.trim line).dropLast ++ [' ']

/-- The lines at the end that no other line ends. -/
def openLines : List (List Char) → List (List Char)
  | [] => []
  | line :: rest => if ∀ l ∈ line :: rest, IsOpen l then line :: rest else openLines rest

/-- The text that is to be continued behind lines. -/
def carried (pending : List Char) : List (List Char) → List Char
  | [] => pending
  | line :: rest =>
      if IsOpen line then carried (pending ++ joinedText line) rest else carried [] rest

variable {pending line text : List Char} {rest lines : List (List Char)} {i : Instruction}

/-- An open line adds what it says, and a space behind it. -/
theorem joinedText_eq (h : IsOpen line) :
    joinedText line = if IsComment line then [] else lineText line ++ [' '] := by
  unfold joinedText lineText
  by_cases hcomment : IsComment line
  · simp only [hcomment, if_true]
  · have hlast := h.resolve_left hcomment
    simp only [hcomment, hlast, if_false, if_true]

theorem withoutBlanks_joinedText (h : IsOpen line) :
    Text.withoutBlanks (joinedText line) = Text.withoutBlanks (lineText line) := by
  have hspace : Text.withoutBlanks [' '] = [] := rfl
  rw [joinedText_eq h]
  split
  · rename_i hcomment
    rw [lineText, if_pos hcomment]
  · rw [Text.withoutBlanks_append, hspace, List.append_nil]

/-- What a line says stands on it. -/
theorem mem_of_mem_lineText {c : Char} (h : c ∈ lineText line) : c ∈ line := by
  apply Text.mem_of_mem_trim
  unfold lineText at h
  split at h
  · cases h
  · split at h
    · exact (List.dropLast_sublist _).subset h
    · exact h

/-- Lines with nothing but open ones behind them are open themselves. -/
theorem openLines_of_forall (h : ∀ l ∈ lines, IsOpen l) : openLines lines = lines := by
  cases lines with
  | nil => rfl
  | cons line rest => rw [openLines, if_pos h]

theorem openLines_cons_of_not_forall (h : ¬ ∀ l ∈ line :: rest, IsOpen l) :
    openLines (line :: rest) = openLines rest := by
  rw [openLines, if_neg h]

theorem openLines_suffix (lines : List (List Char)) : openLines lines <:+ lines := by
  induction lines with
  | nil => exact List.suffix_rfl
  | cons line rest ih =>
      rw [openLines]
      split
      · exact List.suffix_rfl
      · exact ih.trans (List.suffix_cons line rest)

/-! ## Reading one line -/

namespace Instruction

/-- An open line grows the text that is to be continued. -/
theorem ofLines_open (h : IsOpen line) :
    ofLines pending (line :: rest) = ofLines (pending ++ joinedText line) rest := by
  unfold joinedText
  by_cases hcomment : IsComment line
  · rw [if_pos hcomment, List.append_nil, ofLines_skipped (.inl hcomment)]
  · obtain ⟨body, htrim⟩ := List.getLast?_eq_some_iff.mp (h.resolve_left hcomment)
    have hread : IsRead pending line (body ++ ['\\']) := by
      refine ⟨htrim, ?_, .inl (by simp)⟩
      rw [← htrim]
      exact hcomment
    rw [if_neg hcomment, htrim, List.dropLast_concat, ofLines_continued hread, List.append_assoc]

/-- Any other line ends an instruction, which may be empty. -/
theorem ofLines_closing (h : ¬ IsOpen line) :
    ofLines pending (line :: rest) =
      (ofText? (pending ++ lineText line)).toList ++ ofLines [] rest := by
  obtain ⟨hcomment, hlast⟩ := not_or.mp h
  have htext : lineText line = Text.trim line := by
    rw [lineText, if_neg hcomment, if_neg hlast]
  rw [htext]
  by_cases hnothing : Text.trim line = [] ∧ pending = []
  · obtain ⟨hblank, rfl⟩ := hnothing
    rw [ofLines_skipped (.inr ⟨hblank, rfl⟩), hblank]
    rfl
  · have hread : IsRead pending line (Text.trim line) :=
      ⟨rfl, hcomment, not_and_or.mp hnothing⟩
    exact ofLines_ended hread hlast

/-- Lines are read one part after the other. -/
theorem ofLines_append (pending : List Char) (before after : List (List Char)) :
    ofLines pending (before ++ after) =
      ofLines pending before ++ ofLines (carried pending before) after := by
  -- The induction follows the lines in front; an open one only changes what is carried.
  induction before generalizing pending with
  | nil => simp [ofLines, carried]
  | cons line rest ih =>
      by_cases hopen : IsOpen line
      · rw [List.cons_append, ofLines_open hopen, ofLines_open hopen, carried, if_pos hopen, ih]
      · rw [List.cons_append, ofLines_closing hopen, ofLines_closing hopen, carried, if_neg hopen,
          ih, List.append_assoc]

/-! ## The text of one instruction -/

/-- **Instructions are read from what lines say.**  What holds of this, of a space, and of texts
put together, holds of the text that an instruction is read from. -/
theorem exists_text_of_mem_ofLines {P : List Char → Prop} (hnil : P []) (hspace : P [' '])
    (happend : ∀ front behind, P front → P behind → P (front ++ behind))
    (hlines : ∀ line ∈ lines, P (lineText line)) (hpending : P pending)
    (h : i ∈ ofLines pending lines) : ∃ text, ofText? text = some i ∧ P text := by
  -- The induction goes over the lines; the carried text keeps the property at each of them.
  induction lines generalizing pending with
  | nil => cases h
  | cons line rest ih =>
      obtain ⟨hline, hrest⟩ := List.forall_mem_cons.mp hlines
      by_cases hopen : IsOpen line
      · rw [ofLines_open hopen, joinedText_eq hopen] at h
        refine ih hrest (happend _ _ hpending ?_) h
        split
        · exact hnil
        · exact happend _ _ hline hspace
      · rw [ofLines_closing hopen, List.mem_append, Option.mem_toList] at h
        rcases h with h | h
        · exact ⟨pending ++ lineText line, h, happend _ _ hpending hline⟩
        · exact ih hrest hnil h

/-- No instruction goes beyond its line. -/
theorem newline_not_mem_arguments (hpending : '\n' ∉ pending) (hlines : ∀ line ∈ lines, '\n' ∉ line)
    (h : i ∈ ofLines pending lines) : '\n' ∉ i.arguments := by
  obtain ⟨text, htext, hnewline⟩ := exists_text_of_mem_ofLines (P := fun text => '\n' ∉ text)
    List.not_mem_nil (by decide)
    (fun front behind hfront hbehind hmem => (List.mem_append.mp hmem).elim hfront hbehind)
    (fun line hline hmem => hlines line hline (mem_of_mem_lineText hmem)) hpending h
  exact fun hmem => hnewline (mem_of_mem_arguments htext hmem)

/-- A text is an instruction if it is not blank. -/
theorem ofText?_eq_none_iff : ofText? text = none ↔ Text.withoutBlanks text = [] := by
  rw [← Text.trim_eq_nil_iff, ofText?_eq]
  simp

theorem exists_ofText? (h : Text.withoutBlanks text ≠ []) : ∃ i, ofText? text = some i := by
  rw [← Option.ne_none_iff_exists']
  exact mt ofText?_eq_none_iff.mp h

/-- Blanks in front of its text do not matter to an instruction. -/
theorem ofText?_blanks_append (h : Text.withoutBlanks text = []) (behind : List Char) :
    ofText? (text ++ behind) = ofText? behind := by
  rw [ofText?_eq, Text.trim_blanks_append h, ← ofText?_eq]

/-- Nor do blanks behind it. -/
theorem ofText?_append_blanks (h : Text.withoutBlanks text = []) (front : List Char) :
    ofText? (front ++ text) = ofText? front := by
  rw [ofText?_eq, Text.trim_append_blanks h, ← ofText?_eq]

end Instruction

/-! ## What is carried to the end -/

theorem carried_append (pending : List Char) (before after : List (List Char)) :
    carried pending (before ++ after) = carried (carried pending before) after := by
  induction before generalizing pending with
  | nil => rfl
  | cons line rest ih =>
      rw [List.cons_append, carried, carried, ih, ih]
      split
      · rfl
      · rfl

theorem not_isOpen_nil : ¬ IsOpen [] := by
  decide

/-- An empty line ends what is carried. -/
theorem ofLines_append_empty (lines : List (List Char)) :
    Instruction.ofLines [] (lines ++ [[]]) =
      Instruction.ofLines [] lines ++ (Instruction.ofText? (carried [] lines)).toList := by
  have htext : lineText [] = [] := rfl
  rw [Instruction.ofLines_append, Instruction.ofLines_closing not_isOpen_nil, htext,
    List.append_nil]
  exact congrArg _ (List.append_nil _)

theorem carried_append_empty (pending : List Char) (lines : List (List Char)) :
    carried pending (lines ++ [[]]) = [] := by
  rw [carried_append, carried, if_neg not_isOpen_nil, carried]

/-- Nothing is carried behind lines whose last one, comments apart, is not continued. -/
theorem carried_eq_nil (h : IsEnded lines) : carried [] lines = [] := by
  -- The induction goes from the end, past the comments there.
  induction lines using List.reverseRecOn with
  | nil => rfl
  | append_singleton front line ih =>
      unfold IsEnded at h ih
      rw [List.filter_append] at h
      rw [carried_append]
      by_cases hcomment : IsComment line
      · have hnone : [line].filter (fun line => ¬ IsComment line) = [] := by simp [hcomment]
        rw [hnone, List.append_nil] at h
        rw [ih h, carried, if_pos (.inl hcomment), joinedText, if_pos hcomment]
        rfl
      · have hsome : [line].filter (fun line => ¬ IsComment line) = [line] := by simp [hcomment]
        rw [hsome, List.getLast?_concat] at h
        have hclosing : ¬ IsOpen line := not_or.mpr ⟨hcomment, h line rfl⟩
        rw [carried, if_neg hclosing, carried]

/-- What is carried behind lines is the text of the open ones at the end, and what was there
before only if all of them are open. -/
theorem carried_eq (pending : List Char) (lines : List (List Char)) :
    carried pending lines = (if ∀ l ∈ lines, IsOpen l then pending else []) ++
      (openLines lines).flatMap joinedText := by
  induction lines generalizing pending with
  | nil => simp [carried, openLines]
  | cons line rest ih =>
      rw [carried]
      by_cases hopen : IsOpen line
      · rw [if_pos hopen, ih]
        by_cases hrest : ∀ l ∈ rest, IsOpen l
        · have hall : ∀ l ∈ line :: rest, IsOpen l := List.forall_mem_cons.mpr ⟨hopen, hrest⟩
          rw [if_pos hrest, if_pos hall, openLines_of_forall hrest, openLines_of_forall hall,
            List.flatMap_cons, List.append_assoc]
        · have hsome : ¬ ∀ l ∈ line :: rest, IsOpen l :=
            fun h => hrest (List.forall_mem_cons.mp h).2
          rw [if_neg hrest, if_neg hsome, openLines_cons_of_not_forall hsome]
      · have hsome : ¬ ∀ l ∈ line :: rest, IsOpen l :=
          fun h => hopen (List.forall_mem_cons.mp h).1
        rw [if_neg hopen, ih, if_neg hsome, openLines_cons_of_not_forall hsome, ite_self]

theorem forall_isOpen_openLines : ∀ l ∈ openLines lines, IsOpen l := by
  induction lines with
  | nil => simp [openLines]
  | cons line rest ih =>
      rw [openLines]
      split
      · assumption
      · exact ih

/-- Behind the last line there is the text of the lines that no other line ends. -/
theorem withoutBlanks_carried (lines : List (List Char)) :
    Text.withoutBlanks (carried [] lines) =
      Text.withoutBlanks ((openLines lines).flatMap lineText) := by
  have hjoined (opened : List (List Char)) (h : ∀ l ∈ opened, IsOpen l) :
      Text.withoutBlanks (opened.flatMap joinedText) =
        Text.withoutBlanks (opened.flatMap lineText) := by
    induction opened with
    | nil => rfl
    | cons line rest ih =>
        obtain ⟨hline, hrest⟩ := List.forall_mem_cons.mp h
        simp only [List.flatMap_cons, Text.withoutBlanks_append, withoutBlanks_joinedText hline,
          ih hrest]
  rw [carried_eq, ite_self, List.nil_append]
  exact hjoined _ forall_isOpen_openLines

end ImageBuild.Dockerfile
