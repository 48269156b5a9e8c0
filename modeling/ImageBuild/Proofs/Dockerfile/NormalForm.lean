import Mathlib
import ImageBuild.Proofs.Dockerfile.Layout

/-!
# The normal form of instructions

Instructions are read in a normal form: a keyword in capitals that is no comment, and arguments
on one line with no blanks around them.  In this form they can be written one a line, and they are
read again unless one of them ends in a backslash, which would continue its line.

* `exists_uncommented_of_mem_instructions`: none is read from a text that begins like a comment.
* `isNormal_of_mem_instructions`: so every instruction that is read is in normal form.
* `ofLines_map_written_eq_iff`: which instructions are read from the lines that they are written on.
* `exists_instructions_eq`: all instructions in normal form can be read from some text.
* `instructions_normalForm`: what is read is in normal form, and when it is read again.
-/

namespace ImageBuild.Dockerfile

open Instruction (ofLines ofText?)

namespace Instruction

/-- The form in which instructions are read. -/
structure IsNormal (i : Instruction) : Prop where
  named : i.keyword ≠ []
  unbroken : ∀ c ∈ i.keyword, Text.isBlank c = false
  capital : ∀ c ∈ i.keyword, ¬ ('a' ≤ c ∧ c ≤ 'z')
  uncommented : i.keyword.head? ≠ some '#'
  trimmed : Text.trim i.arguments = i.arguments
  oneLine : '\n' ∉ i.arguments

/-- An instruction on a line: its keyword, and behind a space its arguments if it has any. -/
def written (i : Instruction) : List Char :=
  if i.arguments = [] then i.keyword else i.keyword ++ ' ' :: i.arguments

end Instruction

variable {pending line text content : List Char} {lines : List (List Char)} {i : Instruction}
  {found : List Instruction}

/-! ## What is read is in normal form -/

/-- What a line says does not begin with a number sign. -/
theorem head?_withoutBlanks_lineText (line : List Char) :
    (Text.withoutBlanks (lineText line)).head? ≠ some '#' := by
  by_cases hcomment : IsComment line
  · simp [lineText, hcomment]
  · -- It is the line between its blanks, as far as it goes.
    have hfront : lineText line <+: Text.trim line := by
      rw [lineText, if_neg hcomment]
      split
      · exact List.dropLast_prefix _
      · exact List.prefix_rfl
    cases htext : lineText line with
    | nil => simp
    | cons first rest =>
        obtain ⟨behind, hbehind⟩ := hfront
        have hhead : (Text.trim line).head? = some first := by
          rw [← hbehind, htext]
          rfl
        have hblank : Text.isBlank first = false := Text.isBlank_of_mem_head?_trim line first hhead
        rw [Text.head?_withoutBlanks (by simpa using hblank), List.head?_cons, ← hhead]
        exact hcomment

theorem head?_withoutBlanks_append (hpending : (Text.withoutBlanks pending).head? ≠ some '#')
    (htext : (Text.withoutBlanks text).head? ≠ some '#') :
    (Text.withoutBlanks (pending ++ text)).head? ≠ some '#' := by
  rw [Text.withoutBlanks_append, List.head?_append]
  cases hhead : (Text.withoutBlanks pending).head? with
  | none => exact htext
  | some first =>
      rw [hhead] at hpending
      exact hpending

/-- **No instruction is read from a text that begins with a number sign**, whichever lines are
joined to it. -/
theorem exists_uncommented_of_mem_instructions (h : i ∈ instructions content) :
    ∃ text, ofText? text = some i ∧ (Text.withoutBlanks text).head? ≠ some '#' :=
  Instruction.exists_text_of_mem_ofLines (by simp) (by decide)
    (fun _ _ => head?_withoutBlanks_append) (fun line _ => head?_withoutBlanks_lineText line)
    (by simp) h

/-- A text that is no comment is read as an instruction in normal form. -/
theorem isNormal_of_ofText? (h : ofText? text = some i)
    (hsign : (Text.withoutBlanks text).head? ≠ some '#') (hline : '\n' ∉ i.arguments) :
    i.IsNormal := by
  rw [Instruction.ofText?_eq] at h
  obtain ⟨hsome, hparts⟩ := Option.ite_none_left_eq_some.mp h
  cases hparts
  obtain ⟨first, more, htrim⟩ := List.exists_cons_of_ne_nil hsome
  have hblank : Text.isBlank first = false :=
    Text.isBlank_of_mem_head?_trim text first (by rw [htrim]; rfl)
  have hfirst : first ≠ '#' := by
    rw [← Text.withoutBlanks_trim, htrim,
      Text.head?_withoutBlanks (by simpa using hblank)] at hsign
    simpa using hsign
  have hword : (Text.trim text).takeWhile (fun c => !Text.isBlank c) =
      first :: more.takeWhile fun c => !Text.isBlank c := by
    rw [htrim]
    exact List.takeWhile_cons_of_pos (by simp [hblank])
  refine ⟨?named, ?unbroken, ?capital, ?uncommented, Text.trim_trim _, hline⟩
  case named => simp [hword]
  case unbroken =>
    intro c hc
    obtain ⟨d, hd, rfl⟩ := List.mem_map.mp hc
    rw [Text.isBlank_upperAscii]
    simpa using List.mem_takeWhile_imp hd
  case capital =>
    intro c hc
    obtain ⟨d, -, rfl⟩ := List.mem_map.mp hc
    exact Text.not_small_upperAscii d
  case uncommented =>
    rw [List.head?_map, hword, ne_eq, Text.map_upperAscii_eq_some_iff (by decide)]
    simpa using hfirst

/-- **Every instruction of a Dockerfile is in normal form.** -/
theorem isNormal_of_mem_instructions (h : i ∈ instructions content) : i.IsNormal := by
  have hnewline : '\n' ∉ i.arguments := Instruction.newline_not_mem_arguments List.not_mem_nil
    (fun line hline => Text.not_mem_of_mem_lines hline) h
  obtain ⟨text, htext, hsign⟩ := exists_uncommented_of_mem_instructions h
  exact isNormal_of_ofText? htext hsign hnewline

/-! ## Instructions on lines -/

namespace Instruction.IsNormal

theorem written_ne_nil (h : i.IsNormal) : i.written ≠ [] := by
  unfold written
  split
  · exact h.named
  · exact List.append_ne_nil_of_left_ne_nil h.named _

/-- An instruction in writing begins with its keyword. -/
theorem head?_written (h : i.IsNormal) : i.written.head? = i.keyword.head? := by
  unfold written
  split
  · rfl
  · exact List.head?_append_of_ne_nil _ h.named

theorem isBlank_of_mem_head?_written (h : i.IsNormal) :
    ∀ c ∈ i.written.head?, Text.isBlank c = false := by
  intro c hc
  rw [h.head?_written] at hc
  exact h.unbroken c (List.mem_of_mem_head? hc)

theorem uncommented_written (h : i.IsNormal) : i.written.head? ≠ some '#' := by
  rw [h.head?_written]
  exact h.uncommented

theorem newline_not_mem_written (h : i.IsNormal) : '\n' ∉ i.written := by
  have hkeyword : '\n' ∉ i.keyword := fun hmem => absurd (h.unbroken _ hmem) (by decide)
  unfold written
  split
  · exact hkeyword
  · simp [hkeyword, h.oneLine]

/-- Nothing in front of a line or behind it is trimmed. -/
theorem trim_written (h : i.IsNormal) : Text.trim i.written = i.written := by
  refine Text.trim_eq_self h.isBlank_of_mem_head?_written fun c hc => ?_
  unfold written at hc
  split at hc
  · exact h.unbroken c (List.mem_of_getLast? hc)
  · rename_i hsome
    rw [List.getLast?_append_of_ne_nil _ (List.cons_ne_nil _ _),
      List.getLast?_cons_of_ne_nil hsome, ← h.trimmed] at hc
    exact Text.isBlank_of_mem_getLast?_trimRight _ c hc

/-- A line with an instruction is continued if it ends in a backslash. -/
theorem isOpen_written_iff (h : i.IsNormal) : IsOpen i.written ↔ i.written.getLast? = some '\\' := by
  have hcomment : ¬ IsComment i.written := by
    rw [IsComment, h.trim_written]
    exact h.uncommented_written
  rw [IsOpen, h.trim_written]
  exact or_iff_right hcomment

/-- An instruction is read from its line. -/
theorem ofText?_written (h : i.IsNormal) : ofText? i.written = some i := by
  have hword : ∀ c ∈ i.keyword, (!Text.isBlank c) = true := by simpa using h.unbroken
  have hcapital : i.keyword.map Text.upperAscii = i.keyword :=
    (List.map_congr_left fun c hc => if_neg (h.capital c hc)).trans (List.map_id _)
  -- Behind the keyword there is at most the space in front of the arguments.
  have hparts : (i.written.takeWhile fun c => !Text.isBlank c) = i.keyword ∧
      Text.trim (i.written.dropWhile fun c => !Text.isBlank c) = i.arguments := by
    unfold written
    split
    · rename_i hnone
      rw [List.takeWhile_eq_self_iff.mpr hword, List.dropWhile_eq_nil_iff.mpr hword, hnone]
      exact ⟨rfl, rfl⟩
    · rw [List.takeWhile_append_of_pos hword, List.takeWhile_cons_of_neg (by decide),
        List.append_nil, List.dropWhile_append_of_pos hword,
        List.dropWhile_cons_of_neg (by decide), Text.trim_cons_blank (by decide), h.trimmed]
      exact ⟨rfl, rfl⟩
  rw [ofText?_eq, h.trim_written, if_neg h.written_ne_nil, hparts.1, hparts.2, hcapital]

theorem ofLines_written (h : i.IsNormal) (hlast : i.written.getLast? ≠ some '\\')
    (rest : List (List Char)) : ofLines [] (i.written :: rest) = i :: ofLines [] rest := by
  have hread : IsRead [] i.written i.written :=
    ⟨h.trim_written, h.uncommented_written, .inl h.written_ne_nil⟩
  rw [ofLines_ended hread hlast, List.nil_append, h.ofText?_written]
  rfl

/-- With a backslash behind it, it is read from its line and an empty one. -/
theorem ofLines_written_continued (h : i.IsNormal) (rest : List (List Char)) :
    ofLines [] ((i.written ++ ['\\']) :: [] :: rest) = i :: ofLines [] rest := by
  have hhead : (i.written ++ ['\\']).head? = i.written.head? :=
    List.head?_append_of_ne_nil _ h.written_ne_nil
  have htrim : Text.trim (i.written ++ ['\\']) = i.written ++ ['\\'] := by
    apply Text.trim_eq_self
    · rw [hhead]
      exact h.isBlank_of_mem_head?_written
    · rw [List.getLast?_concat]
      rintro c ⟨⟩
      decide
  have hread : IsRead [] (i.written ++ ['\\']) (i.written ++ ['\\']) := by
    refine ⟨htrim, ?_, .inl (by simp)⟩
    rw [hhead]
    exact h.uncommented_written
  have hspace : Text.withoutBlanks [' '] = [] := rfl
  have hnothing : lineText [] = [] := rfl
  rw [ofLines_continued hread, ofLines_closing not_isOpen_nil, List.nil_append, hnothing,
    List.append_nil, ofText?_append_blanks hspace, h.ofText?_written]
  rfl

end Instruction.IsNormal

/-! ## Reading instructions again -/

/-- No more instructions are read than there are lines that end one. -/
theorem length_ofLines_le (pending : List Char) (lines : List (List Char)) :
    (ofLines pending lines).length ≤ lines.countP fun line => ¬ IsOpen line := by
  induction lines generalizing pending with
  | nil => exact Nat.le_refl 0
  | cons line rest ih =>
      by_cases hopen : IsOpen line
      · rw [Instruction.ofLines_open hopen, List.countP_cons_of_neg (by simpa using hopen)]
        exact ih _
      · have hone : (ofText? (pending ++ lineText line)).toList.length ≤ 1 := by
          cases ofText? (pending ++ lineText line) <;> simp
        have hrest := ih []
        rw [Instruction.ofLines_closing hopen, List.length_append,
          List.countP_cons_of_pos (by simpa using hopen)]
        omega

/-- **Instructions are read from the lines that they are written on** if and only if none of these
lines is continued. -/
theorem ofLines_map_written_eq_iff (h : ∀ i ∈ found, i.IsNormal) :
    ofLines [] (found.map Instruction.written) = found ↔
      ∀ i ∈ found, i.written.getLast? ≠ some '\\' := by
  constructor
  · intro hsame i hi hlast
    -- Each line has to end an instruction, or there would be fewer of them.
    have hle := length_ofLines_le [] (found.map Instruction.written)
    rw [hsame, ← List.length_map Instruction.written] at hle
    have hall := List.countP_eq_length.mp (le_antisymm List.countP_le_length hle)
    have hclosing : ¬ IsOpen i.written := by simpa using hall i.written (List.mem_map_of_mem hi)
    exact hclosing ((h i hi).isOpen_written_iff.mpr hlast)
  · intro hlast
    induction found with
    | nil => rfl
    | cons i rest ih =>
        obtain ⟨hi, hrest⟩ := List.forall_mem_cons.mp h
        obtain ⟨hilast, hrestlast⟩ := List.forall_mem_cons.mp hlast
        rw [List.map_cons, hi.ofLines_written hilast, ih hrest hrestlast]

/-- A text is read like the instructions that it was written from, one a line. -/
theorem instructions_eq_ofLines_map_written (h : ∀ i ∈ found, i.IsNormal)
    (htext : Text.IsWritten (found.map Instruction.written) text) :
    instructions text = ofLines [] (found.map Instruction.written) := by
  rcases htext.map_trim_lines with hsame | hlost
  · exact ofLines_congr_trim hsame []
  · -- A line that is lost would be empty, but there is an instruction on each.
    have hempty : [] ∈ (found.map Instruction.written).map Text.trim := by simp [← hlost]
    rw [List.map_map, List.mem_map] at hempty
    obtain ⟨i, hi, hnothing⟩ := hempty
    exact absurd ((h i hi).trim_written.symm.trans hnothing) (h i hi).written_ne_nil

/-- Instructions on lines that are each continued into an empty one. -/
def continuedLines (found : List Instruction) : List (List Char) :=
  found.flatMap fun i => [i.written ++ ['\\'], []]

theorem newline_not_mem_continuedLines (h : ∀ i ∈ found, i.IsNormal) :
    ∀ line ∈ continuedLines found, '\n' ∉ line := by
  intro line hline
  obtain ⟨i, hi, hline⟩ := List.mem_flatMap.mp hline
  have hnewline := (h i hi).newline_not_mem_written
  rw [List.mem_pair] at hline
  rcases hline with rfl | rfl
  · simp [hnewline]
  · exact List.not_mem_nil

theorem ofLines_continuedLines (h : ∀ i ∈ found, i.IsNormal) :
    ofLines [] (continuedLines found) = found := by
  induction found with
  | nil => rfl
  | cons i rest ih =>
      obtain ⟨hi, hrest⟩ := List.forall_mem_cons.mp h
      have hlines : continuedLines (i :: rest) =
          (i.written ++ ['\\']) :: [] :: continuedLines rest := rfl
      rw [hlines, hi.ofLines_written_continued, ih hrest]

/-- **All instructions in normal form are read from some text**, also those that end in a
backslash. -/
theorem exists_instructions_eq (h : ∀ i ∈ found, i.IsNormal) :
    ∃ content, instructions content = found := by
  refine ⟨(continuedLines found).flatMap fun line => line ++ ['\n'], ?_⟩
  rw [instructions, Text.lines_flatMap_newline (newline_not_mem_continuedLines h),
    ofLines_continuedLines h]

/-- **What is read from a Dockerfile is in normal form, and is read again from it.**  Written one a
line, with any ends of lines, the instructions are those that are read if and only if none of these
lines ends in a backslash.  The form is no narrower than it has to be: all instructions in it can be
read from some text. -/
theorem instructions_normalForm (content : List Char) :
    (∀ i ∈ instructions content, i.IsNormal) ∧
    (∀ text, Text.IsWritten ((instructions content).map Instruction.written) text →
      (instructions text = instructions content ↔
        ∀ i ∈ instructions content, i.written.getLast? ≠ some '\\')) ∧
    ∀ found : List Instruction, (∀ i ∈ found, i.IsNormal) →
      ∃ other, instructions other = found := by
  have hnormal : ∀ i ∈ instructions content, i.IsNormal := fun i => isNormal_of_mem_instructions
  refine ⟨hnormal, fun text htext => ?_, fun found => exists_instructions_eq⟩
  rw [instructions_eq_ofLines_map_written hnormal htext]
  exact ofLines_map_written_eq_iff hnormal

/-- An instruction that ends in a backslash takes in the line below it. -/
example : instructions "RUN a\\\\\n\nRUN b".toList =
      [⟨"RUN".toList, "a\\".toList⟩, ⟨"RUN".toList, "b".toList⟩] ∧
    instructions "RUN a\\\nRUN b".toList = [⟨"RUN".toList, "a RUN b".toList⟩] :=
  ⟨rfl, rfl⟩

/-- An instruction behind a lone backslash and a comment, and one that is continued. -/
def untidyContent : String := "\\\n#a \\\n  from \\\n\n\tlabel  #b='c \\\n d\\'\r\n"

/-- The number sign of an argument and the backslash inside it do not matter, and one that is at
its end is read as well. -/
theorem instructions_normalForm_untidy :
    instructions untidyContent.toList =
        [⟨"FROM".toList, []⟩, ⟨"LABEL".toList, "#b='c  d\\'".toList⟩] ∧
      Text.IsWritten ((instructions untidyContent.toList).map Instruction.written)
        "FROM\r\nLABEL #b='c  d\\'".toList ∧
      instructions "FROM\r\nLABEL #b='c  d\\'".toList = instructions untidyContent.toList ∧
      Instruction.IsNormal ⟨"RUN".toList, "a\\".toList⟩ ∧
      ∃ content, instructions content = [⟨"RUN".toList, "a\\".toList⟩] := by
  obtain ⟨-, hagain, hall⟩ := instructions_normalForm untidyContent.toList
  have hread : instructions untidyContent.toList =
      [⟨"FROM".toList, []⟩, ⟨"LABEL".toList, "#b='c  d\\'".toList⟩] := rfl
  have hwritten : Text.IsWritten ((instructions untidyContent.toList).map Instruction.written)
      "FROM\r\nLABEL #b='c  d\\'".toList := by
    rw [hread]
    exact .ended (by decide) (.inr rfl) (.unended (by decide))
  have hlast : ∀ i ∈ instructions untidyContent.toList, i.written.getLast? ≠ some '\\' := by
    rw [hread]
    decide
  have hnormal : Instruction.IsNormal ⟨"RUN".toList, "a\\".toList⟩ :=
    ⟨by decide, by simp [Text.isBlank], by simp, by decide, by decide, by decide⟩
  exact ⟨hread, hwritten, (hagain _ hwritten).mpr hlast, hnormal, hall _ (by simpa using hnormal)⟩

end ImageBuild.Dockerfile
