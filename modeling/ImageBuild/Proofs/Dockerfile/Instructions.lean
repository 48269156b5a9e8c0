import ImageBuild.Dockerfile.Instruction
import ImageBuild.Proofs.Text.Lines

/-!
# From lines to instructions

One equation for each way in which a line is read, with the text that is to be
continued as the state; and what the arguments of instructions are made of.
-/

namespace ImageBuild.Dockerfile.Instruction

variable {pending line text : List Char} {rest : List (List Char)} {i : Instruction}

/-! ## Reading one line -/

/-- A line that is passed over: a comment, or a blank line with nothing to continue. -/
theorem ofLines_skipped
    (h : (Text.trim line).head? = some '#' ∨ (Text.trim line = [] ∧ pending = [])) :
    ofLines pending (line :: rest) = ofLines pending rest := by
  rw [ofLines]
  simp [h]

/-- A line that is read, with what it consists of between its blanks. -/
def IsRead (pending line text : List Char) : Prop :=
  Text.trim line = text ∧ text.head? ≠ some '#' ∧ (text ≠ [] ∨ pending ≠ [])

theorem IsRead.not_skipped (h : IsRead pending line text) :
    ¬ (text.head? = some '#' ∨ (text.isEmpty = true ∧ pending.isEmpty = true)) := by
  obtain ⟨-, hcomment, hsome⟩ := h
  rw [List.isEmpty_iff, List.isEmpty_iff]
  rintro (hhead | ⟨htext, hpending⟩)
  · exact hcomment hhead
  · rcases hsome with h | h
    · exact h htext
    · exact h hpending

/-- A line that is continued is joined to what is to be continued. -/
theorem ofLines_continued (h : IsRead pending line (text ++ ['\\'])) :
    ofLines pending (line :: rest) = ofLines (pending ++ text ++ [' ']) rest := by
  have hskip := h.not_skipped
  obtain ⟨htrim, -, -⟩ := h
  rw [ofLines]
  simp only [htrim, if_neg hskip, List.getLast?_concat, if_true, List.dropLast_concat]

/-- Any other line ends an instruction. -/
theorem ofLines_ended (h : IsRead pending line text) (hlast : text.getLast? ≠ some '\\') :
    ofLines pending (line :: rest) =
      (ofText? (pending ++ text)).toList ++ ofLines [] rest := by
  have hskip := h.not_skipped
  obtain ⟨htrim, -, -⟩ := h
  rw [ofLines]
  simp only [htrim, if_neg hskip, if_neg hlast]

/-! ## What a text is divided into -/

/-- Blanks write no instruction, and any other text is divided behind its first word. -/
theorem ofText?_eq (text : List Char) :
    ofText? text =
      if Text.trim text = [] then none
      else some {
        keyword := ((Text.trim text).takeWhile fun c => !Text.isBlank c).map Text.upperAscii
        arguments := Text.trim ((Text.trim text).dropWhile fun c => !Text.isBlank c) } := by
  unfold ofText?
  cases Text.trim text with
  | nil => rfl
  | cons first more => rw [if_neg (List.cons_ne_nil first more)]

theorem mem_of_mem_arguments (h : ofText? text = some i) {c : Char} (hc : c ∈ i.arguments) :
    c ∈ text := by
  rw [ofText?_eq] at h
  obtain ⟨-, hparts⟩ := Option.ite_none_left_eq_some.mp h
  cases hparts
  exact Text.mem_of_mem_trim ((List.dropWhile_sublist _).subset (Text.mem_of_mem_trim hc))

end ImageBuild.Dockerfile.Instruction
