import Mathlib
import ImageBuild.Dockerfile.Content
import ImageBuild.Proofs.Dockerfile.Continuation
import ImageBuild.Proofs.Text.Case

/-!
# What becomes of the text of a Dockerfile

The text of a Dockerfile is what its lines say.  Up to blanks and the case of keywords
it is the text of the instructions, followed by that of the lines at the end which no
other line ends; so nothing is lost if and only if these lines say nothing.

* `says_ofText?`: no text is lost when it is divided into keyword and arguments.
* `says_ofLines`: reading lines keeps their text, apart from what is still carried.
* `instructions_says_iff`: when all text of a Dockerfile is in its instructions.
-/

namespace ImageBuild.Dockerfile

namespace Instruction

/-- The keyword and the arguments of an instruction. -/
def text (i : Instruction) : List Char :=
  i.keyword ++ i.arguments

/-- An instruction with its keyword in capitals. -/
def raised (i : Instruction) : Instruction :=
  { i with keyword := i.keyword.map Text.upperAscii }

end Instruction

open Instruction (ofLines ofText? raised)

/-- Instructions whose text is a given one, up to blanks and the case of the keywords. -/
def Says (found : List Instruction) (said : List Char) : Prop :=
  ∃ written : List Instruction, written.map raised = found ∧
    Text.withoutBlanks (written.flatMap Instruction.text) = Text.withoutBlanks said

variable {found more : List Instruction} {said other : List Char}

theorem says_nil_iff : Says [] said ↔ Text.withoutBlanks said = [] := by
  unfold Says
  constructor
  · rintro ⟨written, hwritten, hsaid⟩
    rw [List.map_eq_nil_iff.mp hwritten] at hsaid
    exact hsaid.symm
  · exact fun h => ⟨[], rfl, h.symm⟩

theorem Says.congr (h : Says found said)
    (heq : Text.withoutBlanks said = Text.withoutBlanks other) : Says found other := by
  obtain ⟨written, hwritten, hsaid⟩ := h
  exact ⟨written, hwritten, hsaid.trans heq⟩

theorem Says.append (h : Says found said) (hmore : Says more other) :
    Says (found ++ more) (said ++ other) := by
  obtain ⟨written, rfl, hsaid⟩ := h
  obtain ⟨written', rfl, hother⟩ := hmore
  refine ⟨written ++ written', List.map_append, ?_⟩
  rw [List.flatMap_append, Text.withoutBlanks_append, Text.withoutBlanks_append, hsaid, hother]

/-! ## How much instructions say -/

theorem length_withoutBlanks_raised (i : Instruction) :
    (Text.withoutBlanks i.raised.text).length = (Text.withoutBlanks i.text).length := by
  have hkeyword : Text.withoutBlanks (i.keyword.map Text.upperAscii) =
      (Text.withoutBlanks i.keyword).map Text.upperAscii := by
    simp only [Text.withoutBlanks, List.filter_map, Function.comp_def, Text.isBlank_upperAscii]
  simp only [Instruction.raised, Instruction.text, Text.withoutBlanks_append, hkeyword,
    List.length_append, List.length_map]

/-- Instructions say as many characters as their text has. -/
theorem Says.length_eq (h : Says found said) :
    (Text.withoutBlanks said).length = (Text.withoutBlanks (found.flatMap Instruction.text)).length := by
  obtain ⟨written, rfl, hsaid⟩ := h
  rw [← hsaid]
  clear hsaid
  induction written with
  | nil => rfl
  | cons i rest ih =>
      simp only [List.map_cons, List.flatMap_cons, Text.withoutBlanks_append, List.length_append,
        length_withoutBlanks_raised, ih]

/-! ## Reading keeps the text -/

/-- No text is lost when it is divided into keyword and arguments. -/
theorem says_ofText? (text : List Char) : Says (ofText? text).toList text := by
  rw [Instruction.ofText?_eq]
  split
  · rename_i hblank
    exact says_nil_iff.mpr (Text.trim_eq_nil_iff.mp hblank)
  · refine ⟨[⟨(Text.trim text).takeWhile fun c => !Text.isBlank c,
      Text.trim ((Text.trim text).dropWhile fun c => !Text.isBlank c)⟩], rfl, ?_⟩
    rw [List.flatMap_singleton, Instruction.text, Text.withoutBlanks_append,
      Text.withoutBlanks_trim, ← Text.withoutBlanks_append, List.takeWhile_append_dropWhile,
      Text.withoutBlanks_trim]

/-- **Reading lines keeps their text**, apart from what is still carried behind them. -/
theorem says_ofLines (pending : List Char) (lines : List (List Char)) :
    ∃ said, Says (ofLines pending lines) said ∧
      Text.withoutBlanks (said ++ carried pending lines) =
        Text.withoutBlanks (pending ++ lines.flatMap lineText) := by
  -- An open line moves its text to what is carried, any other one moves all of it to `said`.
  induction lines generalizing pending with
  | nil => exact ⟨[], says_nil_iff.mpr rfl, by simp [carried]⟩
  | cons line rest ih =>
      by_cases hopen : IsOpen line
      · obtain ⟨said, hsays, hsaid⟩ := ih (pending ++ joinedText line)
        refine ⟨said, ?_, ?_⟩
        · rw [Instruction.ofLines_open hopen]
          exact hsays
        · rw [carried, if_pos hopen, hsaid]
          simp [withoutBlanks_joinedText hopen]
      · obtain ⟨said, hsays, hsaid⟩ := ih []
        refine ⟨pending ++ lineText line ++ said, ?_, ?_⟩
        · rw [Instruction.ofLines_closing hopen]
          exact (says_ofText? _).append hsays
        · rw [carried, if_neg hopen, List.append_assoc, Text.withoutBlanks_append, hsaid]
          simp

/-- **Nothing is lost from a Dockerfile but its open lines at the end.**  Its instructions say
what all other lines say, and so they say everything if and only if the open lines say
nothing. -/
theorem instructions_says_iff (content : List Char) :
    (∃ closed, Text.lines content = closed ++ openLines (Text.lines content) ∧
      Says (instructions content) (closed.flatMap lineText)) ∧
    (Says (instructions content) ((Text.lines content).flatMap lineText) ↔
      Text.withoutBlanks ((openLines (Text.lines content)).flatMap lineText) = []) := by
  obtain ⟨closed, hclosed⟩ := openLines_suffix (Text.lines content)
  have htext : Text.withoutBlanks ((Text.lines content).flatMap lineText) =
      Text.withoutBlanks (closed.flatMap lineText) ++
        Text.withoutBlanks ((openLines (Text.lines content)).flatMap lineText) := by
    rw [← Text.withoutBlanks_append, ← List.flatMap_append, hclosed]
  have hsays : Says (instructions content) (closed.flatMap lineText) := by
    obtain ⟨said, hsays, hsaid⟩ := says_ofLines [] (Text.lines content)
    rw [Text.withoutBlanks_append, withoutBlanks_carried, List.nil_append, htext] at hsaid
    exact hsays.congr (List.append_cancel_right hsaid)
  refine ⟨⟨closed, hclosed.symm, hsays⟩, ?_, ?_⟩
  · intro hall
    -- Both texts are as long as that of the instructions, so nothing can be left over.
    have hlength := hall.length_eq.trans hsays.length_eq.symm
    rw [htext, List.length_append] at hlength
    exact List.eq_nil_of_length_eq_zero (by omega)
  · intro hnone
    apply hsays.congr
    rw [htext, hnone, List.append_nil]

/-- A line at the end of a file that is to be continued is lost. -/
theorem not_says_instructions_unended :
    baseImageOf? "FROM fedora \\\n" = none ∧
      ¬ Says (instructions "FROM fedora \\\n".toList)
        ((Text.lines "FROM fedora \\\n".toList).flatMap lineText) := by
  have hnone : instructions "FROM fedora \\\n".toList = [] := rfl
  refine ⟨rfl, ?_⟩
  rw [hnone, says_nil_iff]
  decide

end ImageBuild.Dockerfile
