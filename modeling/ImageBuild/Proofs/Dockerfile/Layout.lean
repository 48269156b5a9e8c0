import Mathlib
import ImageBuild.Dockerfile.Content
import ImageBuild.Proofs.Dockerfile.BlankLines
import ImageBuild.Proofs.Text.Case

/-!
# Layout

Comments, blanks at the ends of lines, the way in which lines are ended and the case of keywords
are layout.  A change of layout leaves the instructions alone, with one exception: an instruction
that is continued into an empty line at the end of the file is only there as long as something is
found of this line, be it a blank or its end.

* `ofLines_recased`: the case of a keyword makes no difference.
* `ofLines_relayout`: no change of layout does, as long as no line is lost.
* `ofLines_written`: what reading loses of the lines that a text was written from.
* `instructions_relayout_iff`: when the instructions of two texts are the same.
-/

namespace ImageBuild.Dockerfile

open Instruction (ofLines ofText?)
open Text (IsRecased)

/-- An instruction stands open behind lines: those that no other line ends say something. -/
def StandsOpen (lines : List (List Char)) : Prop :=
  Text.withoutBlanks ((openLines lines).flatMap lineText) ≠ []

/-- A change of the layout of lines: a comment is inserted anywhere, blanks are put around a line,
or the keyword of a line that starts an instruction is spelled in another case. -/
inductive Relayout : List (List Char) → List (List Char) → Prop where
  | comment (before after : List (List Char)) {line : List Char} (h : IsComment line) :
      Relayout (before ++ after) (before ++ line :: after)
  | blanks (before after : List (List Char)) (line : List Char) {front behind : List Char}
      (hfront : ∀ c ∈ front, Text.isBlank c = true)
      (hbehind : ∀ c ∈ behind, Text.isBlank c = true) :
      Relayout (before ++ line :: after) (before ++ (front ++ line ++ behind) :: after)
  | keyword (before after : List (List Char)) {gap text other : List Char}
      (hstart : ¬ StandsOpen before) (hgap : ∀ c ∈ gap, Text.isBlank c = true)
      (h : IsRecased text other) :
      Relayout (before ++ (gap ++ text) :: after) (before ++ (gap ++ other) :: after)

variable {pending text other line : List Char} {lines others : List (List Char)}

/-! ## Blanks -/

theorem standsOpen_iff : StandsOpen lines ↔ ofText? (carried [] lines) ≠ none := by
  rw [StandsOpen, ← withoutBlanks_carried, ne_eq, ne_eq, Instruction.ofText?_eq_none_iff]

/-- Of a line only what stands between its blanks is read. -/
theorem ofLines_congr_trim (h : lines.map Text.trim = others.map Text.trim)
    (pending : List Char) : ofLines pending lines = ofLines pending others := by
  induction lines generalizing others pending with
  | nil =>
      cases others with
      | nil => rfl
      | cons other more => cases h
  | cons line rest ih =>
      cases others with
      | nil => cases h
      | cons other more =>
          rw [List.map_cons, List.map_cons, List.cons.injEq] at h
          obtain ⟨hline, hrest⟩ := h
          rw [ofLines, ofLines, hline]
          simp only [ih hrest]

/-! ## Keywords -/

/-- An instruction has the same keyword in any case. -/
theorem ofText?_recased (h : IsRecased text other) : ofText? text = ofText? other := by
  have htrim := h.trim
  rw [Instruction.ofText?_eq, Instruction.ofText?_eq, htrim.map_takeWhile, htrim.dropWhile_eq]
  exact if_congr htrim.eq_nil_iff rfl rfl

theorem isComment_recased (h : IsRecased text other) : IsComment text ↔ IsComment other :=
  h.trim.head?_eq_iff (by decide)

theorem isOpen_recased (h : IsRecased text other) : IsOpen text ↔ IsOpen other :=
  or_congr (isComment_recased h) (h.trim.getLast?_eq_iff (by decide))

theorem joinedText_recased (h : IsRecased text other) :
    IsRecased (joinedText text) (joinedText other) := by
  unfold joinedText
  by_cases hcomment : IsComment text
  · rw [if_pos hcomment, if_pos ((isComment_recased h).mp hcomment)]
    exact .same []
  · rw [if_neg hcomment, if_neg (mt (isComment_recased h).mpr hcomment)]
    exact h.trim.dropLast.append [' ']

theorem lineText_recased (h : IsRecased text other) (hclosing : ¬ IsOpen text) :
    IsRecased (lineText text) (lineText other) := by
  obtain ⟨hcomment, hlast⟩ := not_or.mp hclosing
  obtain ⟨hcomment', hlast'⟩ := not_or.mp (mt (isOpen_recased h).mpr hclosing)
  rw [lineText, if_neg hcomment, if_neg hlast, lineText, if_neg hcomment', if_neg hlast']
  exact h.trim

/-- The case of a keyword that is carried makes no difference. -/
theorem ofLines_pending_recased (h : IsRecased text other) (lines : List (List Char)) :
    ofLines text lines = ofLines other lines := by
  induction lines generalizing text other with
  | nil => rfl
  | cons line rest ih =>
      by_cases hopen : IsOpen line
      · rw [Instruction.ofLines_open hopen, Instruction.ofLines_open hopen]
        exact ih (h.append _)
      · rw [Instruction.ofLines_closing hopen, Instruction.ofLines_closing hopen,
          ofText?_recased (h.append _)]

/-- **The case of a keyword makes no difference** to an instruction that starts with it. -/
theorem ofLines_recased (h : IsRecased text other) (rest : List (List Char)) :
    ofLines [] (text :: rest) = ofLines [] (other :: rest) := by
  by_cases hopen : IsOpen text
  · rw [Instruction.ofLines_open hopen, Instruction.ofLines_open ((isOpen_recased h).mp hopen)]
    exact ofLines_pending_recased (joinedText_recased h) rest
  · rw [Instruction.ofLines_closing hopen,
      Instruction.ofLines_closing (mt (isOpen_recased h).mpr hopen)]
    exact congrArg (·.toList ++ _) (ofText?_recased (lineText_recased h hopen))

/-! ## Changes of layout -/

theorem trim_between_blanks {front behind : List Char} (line : List Char)
    (hfront : ∀ c ∈ front, Text.isBlank c = true)
    (hbehind : ∀ c ∈ behind, Text.isBlank c = true) :
    Text.trim (front ++ line ++ behind) = Text.trim line := by
  rw [Text.trim_append_blanks (Text.withoutBlanks_eq_nil_iff.mpr hbehind),
    Text.trim_blanks_append (Text.withoutBlanks_eq_nil_iff.mpr hfront)]

/-- **A change of layout leaves the instructions of lines alone.** -/
theorem Relayout.ofLines_eq (h : Relayout lines others) : ofLines [] lines = ofLines [] others := by
  cases h with
  | comment before after hcomment =>
      rw [Instruction.ofLines_append, Instruction.ofLines_append,
        Instruction.ofLines_skipped (.inl hcomment)]
  | blanks before after line hfront hbehind =>
      apply ofLines_congr_trim
      simp only [List.map_append, List.map_cons, trim_between_blanks line hfront hbehind]
  | @keyword before after gap text other hstart hgap hrecased =>
      -- What is carried to the line is blank, and so is what stands in front of its keyword.
      have hcarried : Text.withoutBlanks (carried [] before) = [] := by
        rw [withoutBlanks_carried]
        exact not_not.mp hstart
      have hgone (word : List Char) : ofLines (carried [] before) ((gap ++ word) :: after) =
          ofLines [] (word :: after) := by
        have hblank := Instruction.ofLines_blanks_append hcarried [] ((gap ++ word) :: after)
        rw [List.append_nil] at hblank
        rw [hblank]
        apply ofLines_congr_trim
        rw [List.map_cons, List.map_cons,
          Text.trim_blanks_append (Text.withoutBlanks_eq_nil_iff.mpr hgap)]
      rw [Instruction.ofLines_append, Instruction.ofLines_append, hgone, hgone,
        ofLines_recased hrecased]

/-- A change of layout may be made in front of other lines. -/
theorem Relayout.append (h : Relayout lines others) (behind : List (List Char)) :
    Relayout (lines ++ behind) (others ++ behind) := by
  cases h with
  | comment before after hcomment =>
      rw [List.append_assoc, List.append_assoc]
      exact .comment before (after ++ behind) hcomment
  | blanks before after line hfront hbehind =>
      rw [List.append_assoc, List.append_assoc]
      exact .blanks before (after ++ behind) line hfront hbehind
  | keyword before after hstart hgap hrecased =>
      rw [List.append_assoc, List.append_assoc]
      exact .keyword before (after ++ behind) hstart hgap hrecased

/-- **Any changes of layout leave the instructions of lines alone**, also when other lines stand
behind them. -/
theorem ofLines_relayout (h : Relation.EqvGen Relayout lines others) (behind : List (List Char)) :
    ofLines [] (lines ++ behind) = ofLines [] (others ++ behind) := by
  induction h with
  | rel lines others hstep => exact (hstep.append behind).ofLines_eq
  | refl lines => rfl
  | symm lines others _ ih => exact ih.symm
  | trans lines middle others _ _ ih ih' => exact ih.trans ih'

/-! ## Texts -/

/-- A text is read like the lines that it was written from, if an empty line is put behind both. -/
theorem ofLines_written {written : List (List Char)} {content : List Char}
    (h : Text.IsWritten written content) :
    ofLines [] (Text.lines content ++ [[]]) = ofLines [] (written ++ [[]]) := by
  rcases h.map_trim_lines with hall | hlost
  · apply ofLines_congr_trim
    rw [List.map_append, List.map_append, hall]
  · -- The last line is empty and lost, but there is the one that is put behind.
    have htrim : (written ++ [[]]).map Text.trim =
        ((Text.lines content ++ [[]]) ++ [[]]).map Text.trim := by
      rw [List.map_append, ← hlost, List.map_append, List.map_append]
      rfl
    rw [ofLines_congr_trim htrim, ofLines_append_empty (Text.lines content ++ [[]]),
      carried_append_empty]
    exact (List.append_nil _).symm

/-- A text that loses no line is read like the lines that it was written from. -/
theorem instructions_written {written : List (List Char)} {content : List Char}
    (h : Text.IsWritten written content) (hall : (Text.lines content).length = written.length) :
    instructions content = ofLines [] written := by
  rcases h.map_trim_lines with hsame | hlost
  · exact ofLines_congr_trim hsame []
  · have hlength := congrArg List.length hlost
    rw [List.length_append, List.length_map, List.length_map, hall] at hlength
    exact absurd hlength (by simp)

/-- Lists with at most one more item behind each, which are the same altogether. -/
theorem eq_iff_of_append_toList {α : Type} {l m : List α} {a b : Option α}
    (h : l ++ a.toList = m ++ b.toList) : l = m ↔ (a ≠ none ↔ b ≠ none) := by
  constructor
  · rintro rfl
    have hbehind : a.toList = b.toList := List.append_cancel_left h
    rw [ne_eq, ne_eq, ← Option.toList_eq_nil_iff, ← Option.toList_eq_nil_iff, hbehind]
  · intro hboth
    have hlength : a.toList.length = b.toList.length := by
      cases a with
      | none =>
          have hnone : b = none := by simpa using hboth
          rw [hnone]
      | some x =>
          obtain ⟨y, rfl⟩ := Option.ne_none_iff_exists'.mp (hboth.mp (Option.some_ne_none x))
          rfl
    exact List.append_inj_left' h hlength

variable {written rewritten : List (List Char)} {content changed : String}

/-- **Layout does not matter, unless an instruction is lost at the end.**  After any changes of the
layout of lines, and whichever way they are ended, the instructions are the same if and only if an
instruction stands open at the end of both texts or of neither; labels and base image are the same
then as well.  It is so wherever no empty line is lost at the end. -/
theorem instructions_relayout_iff (h : Relation.EqvGen Relayout written rewritten)
    (hcontent : Text.IsWritten written content.toList)
    (hchanged : Text.IsWritten rewritten changed.toList) :
    (instructions content.toList = instructions changed.toList ↔
      (StandsOpen (Text.lines content.toList) ↔ StandsOpen (Text.lines changed.toList))) ∧
    (instructions content.toList = instructions changed.toList →
      labelsOf content = labelsOf changed ∧ baseImageOf? content = baseImageOf? changed) ∧
    ((Text.lines content.toList).length = written.length →
      (Text.lines changed.toList).length = rewritten.length →
      instructions content.toList = instructions changed.toList) := by
  refine ⟨?_, fun hsame => ?_, fun hall hall' => ?_⟩
  · rw [standsOpen_iff, standsOpen_iff]
    apply eq_iff_of_append_toList
    unfold instructions
    rw [← ofLines_append_empty, ← ofLines_append_empty, ofLines_written hcontent,
      ofLines_written hchanged, ofLines_relayout h]
  · unfold labelsOf baseImageOf?
    rw [hsame]
    exact ⟨rfl, rfl⟩
  · have hsame := ofLines_relayout h []
    rw [List.append_nil, List.append_nil] at hsame
    rw [instructions_written hcontent hall, instructions_written hchanged hall', hsame]

/-- A Dockerfile whose second instruction is continued. -/
def plainLines : List (List Char) :=
  ["FROM a".toList, 'l' :: "abel b=c \\".toList, "d=e".toList]

/-- The same in another layout, with a comment between the lines of the second instruction. -/
def ornateLines : List (List Char) :=
  ["FROM a".toList, ['\t'] ++ 'L' :: "abel b=c \\".toList ++ [' '], " # f \\".toList, "d=e".toList]

theorem relayout_plainLines : Relation.EqvGen Relayout plainLines ornateLines := by
  have hstart : ¬ StandsOpen ["FROM a".toList] := by
    have hnone : Text.withoutBlanks ((openLines ["FROM a".toList]).flatMap lineText) = [] := rfl
    exact fun hopen => hopen hnone
  have hkeyword : Relayout plainLines
      ["FROM a".toList, 'L' :: "abel b=c \\".toList, "d=e".toList] :=
    @Relayout.keyword ["FROM a".toList] ["d=e".toList] [] ('l' :: "abel b=c \\".toList)
      ('L' :: "abel b=c \\".toList) hstart (by simp) (.letter rfl rfl (.same _))
  have hblanks : Relayout ["FROM a".toList, 'L' :: "abel b=c \\".toList, "d=e".toList]
      ["FROM a".toList, ['\t'] ++ 'L' :: "abel b=c \\".toList ++ [' '], "d=e".toList] :=
    .blanks ["FROM a".toList] ["d=e".toList] _ (by simp [Text.isBlank]) (by simp [Text.isBlank])
  have hcomment : Relayout
      ["FROM a".toList, ['\t'] ++ 'L' :: "abel b=c \\".toList ++ [' '], "d=e".toList]
      ornateLines :=
    .comment ["FROM a".toList, ['\t'] ++ 'L' :: "abel b=c \\".toList ++ [' ']] ["d=e".toList] rfl
  exact .trans _ _ _ (.rel _ _ hkeyword) (.trans _ _ _ (.rel _ _ hblanks) (.rel _ _ hcomment))

/-- Changes of all kinds, and other ends of lines, between the lines of an instruction. -/
theorem instructions_relayout_ornate :
    Relation.EqvGen Relayout plainLines ornateLines ∧
      Text.IsWritten plainLines "FROM a\nlabel b=c \\\nd=e".toList ∧
      Text.IsWritten ornateLines "FROM a\r\n\tLabel b=c \\ \r\n # f \\\r\nd=e\n".toList ∧
      instructions "FROM a\nlabel b=c \\\nd=e".toList =
        instructions "FROM a\r\n\tLabel b=c \\ \r\n # f \\\r\nd=e\n".toList := by
  have hplain : Text.IsWritten plainLines "FROM a\nlabel b=c \\\nd=e".toList :=
    .ended (by decide) (.inl rfl) (.ended (by decide) (.inl rfl) (.unended (by decide)))
  have hornate : Text.IsWritten ornateLines
      "FROM a\r\n\tLabel b=c \\ \r\n # f \\\r\nd=e\n".toList :=
    .ended (by decide) (.inr rfl) (.ended (by decide) (.inr rfl)
      (.ended (by decide) (.inr rfl) (.ended (by decide) (.inl rfl) .nil)))
  exact ⟨relayout_plainLines, hplain, hornate,
    (instructions_relayout_iff relayout_plainLines hplain hornate).2.2 rfl rfl⟩

/-- When the blanks of a last line are removed, the instruction that it ends is lost. -/
theorem labelsOf_relayout_emptied :
    Relation.EqvGen Relayout ["LABEL a=1 \\".toList, ['\t']] ["LABEL a=1 \\".toList, []] ∧
      Text.IsWritten ["LABEL a=1 \\".toList, ['\t']] "LABEL a=1 \\\n\t".toList ∧
      Text.IsWritten ["LABEL a=1 \\".toList, []] "LABEL a=1 \\\n".toList ∧
      (labelsOf "LABEL a=1 \\\n\t").get? "a" = some "1" ∧
      (labelsOf "LABEL a=1 \\\n").get? "a" = none := by
  have hblanks : Relayout ["LABEL a=1 \\".toList, []] ["LABEL a=1 \\".toList, ['\t']] :=
    @Relayout.blanks ["LABEL a=1 \\".toList] [] [] ['\t'] [] (by simp [Text.isBlank]) (by simp)
  refine ⟨.symm _ _ (.rel _ _ hblanks), ?_, ?_, ?_, ?_⟩
  · exact .ended (by decide) (.inl rfl) (.unended (by decide))
  · exact .ended (by decide) (.inl rfl) (.unended (by decide))
  · cbv
  · cbv

end ImageBuild.Dockerfile
