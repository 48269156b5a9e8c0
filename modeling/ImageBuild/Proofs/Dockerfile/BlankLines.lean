import Mathlib
import ImageBuild.Dockerfile.Content
import ImageBuild.Proofs.Dockerfile.Continuation

/-!
# Blank lines

A blank line ends whatever is open in front of it.  Between instructions it makes no
difference; between the lines of one instruction it divides it, unless what follows
would have ended it without adding anything.

* `ofLines_blank_eq_iff`: what a blank line does to the lines behind it.
* `instructions_insert_blank_iff`: where a blank line can be inserted into a Dockerfile
  without a change of its instructions.
-/

namespace ImageBuild.Dockerfile

/-- Lines that end what is open in front of them and add nothing to it. -/
def EndIdly : List (List Char) → Prop
  | [] => False
  | line :: rest => Text.withoutBlanks (lineText line) = [] ∧ (IsOpen line → EndIdly rest)

/-- An instruction stands open between two groups of lines: the first ones leave some text of
it, and the others do not merely end it. -/
def Divides (before after : List (List Char)) : Prop :=
  Text.withoutBlanks ((openLines before).flatMap lineText) ≠ [] ∧ ¬ EndIdly after

variable {pending blank line : List Char} {lines : List (List Char)}

theorem not_isOpen_of_trim_eq_nil (h : Text.trim blank = []) : ¬ IsOpen blank := by
  simp [IsOpen, IsComment, h]

theorem lineText_of_trim_eq_nil (h : Text.trim blank = []) : lineText blank = [] := by
  simp [lineText, IsComment, h]

namespace Instruction

/-- Blanks that are carried do not matter. -/
theorem ofLines_blanks_append (h : Text.withoutBlanks pending = []) (text : List Char)
    (lines : List (List Char)) : ofLines (pending ++ text) lines = ofLines text lines := by
  induction lines generalizing text with
  | nil => rfl
  | cons line rest ih =>
      by_cases hopen : IsOpen line
      · rw [ofLines_open hopen, ofLines_open hopen, List.append_assoc, ih]
      · rw [ofLines_closing hopen, ofLines_closing hopen, List.append_assoc,
          ofText?_blanks_append h]

/-- Text that is carried can stand on its own only if nothing is added to it. -/
theorem ofLines_append_eq_iff (h : Text.withoutBlanks pending ≠ []) (text : List Char)
    (lines : List (List Char)) :
    ofLines (pending ++ text) lines = (ofText? pending).toList ++ ofLines text lines ↔
      Text.withoutBlanks text = [] ∧ EndIdly lines := by
  obtain ⟨first, hfirst⟩ := exists_ofText? h
  -- `text` has been added so far; the induction goes on to the line that ends it.
  induction lines generalizing text with
  | nil => simp [ofLines, EndIdly, hfirst]
  | cons line rest ih =>
      by_cases hopen : IsOpen line
      · rw [ofLines_open hopen, ofLines_open hopen, List.append_assoc, ih,
          Text.withoutBlanks_append, withoutBlanks_joinedText hopen]
        simp [EndIdly, hopen, and_assoc]
      · have hidly : EndIdly (line :: rest) ↔ Text.withoutBlanks (lineText line) = [] := by
          simp [EndIdly, hopen]
        rw [ofLines_closing hopen, ofLines_closing hopen, List.append_assoc, hidly,
          ← List.append_eq_nil_iff, ← Text.withoutBlanks_append]
        by_cases hadded : Text.withoutBlanks (text ++ lineText line) = []
        · rw [ofText?_append_blanks hadded, ofText?_eq_none_iff.mpr hadded]
          simp [hadded]
        · have hjoined : Text.withoutBlanks (pending ++ (text ++ lineText line)) ≠ [] := by
            rw [Text.withoutBlanks_append]
            exact fun hnil => h (List.append_eq_nil_iff.mp hnil).1
          obtain ⟨second, hsecond⟩ := exists_ofText? hadded
          obtain ⟨both, hboth⟩ := exists_ofText? hjoined
          -- One instruction on the left, and two on the right.
          refine iff_of_false (fun heq => ?_) hadded
          have hlength := congrArg List.length heq
          simp [hfirst, hsecond, hboth] at hlength

/-- A blank line makes no difference if nothing is open in front of it, or if it is merely
ended behind it. -/
theorem ofLines_blank_eq_iff (hblank : Text.trim blank = []) (pending : List Char)
    (after : List (List Char)) :
    ofLines pending (blank :: after) = ofLines pending after ↔
      Text.withoutBlanks pending = [] ∨ EndIdly after := by
  rw [ofLines_closing (not_isOpen_of_trim_eq_nil hblank), lineText_of_trim_eq_nil hblank,
    List.append_nil]
  by_cases hpending : Text.withoutBlanks pending = []
  · have hcarried := ofLines_blanks_append hpending [] after
    rw [List.append_nil] at hcarried
    simp [hpending, ofText?_eq_none_iff.mpr hpending, hcarried]
  · have hiff := ofLines_append_eq_iff hpending [] after
    rw [List.append_nil, eq_comm] at hiff
    rw [hiff]
    simp [hpending]

end Instruction

variable {content inserted : String} {before after : List (List Char)}

/-- **A blank line can be inserted wherever it does not divide an instruction.** -/
theorem instructions_insert_blank_iff (hblank : ∀ c ∈ blank, Text.isBlank c = true)
    (hcontent : Text.lines content.toList = before ++ after)
    (hinserted : Text.lines inserted.toList = before ++ blank :: after) :
    (instructions inserted.toList = instructions content.toList ↔ ¬ Divides before after) ∧
      (¬ Divides before after →
        labelsOf inserted = labelsOf content ∧ baseImageOf? inserted = baseImageOf? content) := by
  have htrim : Text.trim blank = [] :=
    Text.trim_eq_nil_iff.mpr (Text.withoutBlanks_eq_nil_iff.mpr hblank)
  have hsame : instructions inserted.toList = instructions content.toList ↔
      ¬ Divides before after := by
    unfold instructions Divides
    rw [hcontent, hinserted, Instruction.ofLines_append, Instruction.ofLines_append,
      List.append_cancel_left_eq, Instruction.ofLines_blank_eq_iff htrim, withoutBlanks_carried]
    tauto
  refine ⟨hsame, fun hwhole => ?_⟩
  have hinstructions := hsame.mpr hwhole
  unfold labelsOf baseImageOf?
  rw [hinstructions]
  exact ⟨rfl, rfl⟩

/-- Behind a comment a blank line changes nothing, even if the comment ends in a backslash. -/
theorem instructions_insert_blank_comment :
    ¬ Divides ["FROM a".toList, "# b \\".toList] ["LABEL c=d \\".toList, "e=f".toList] ∧
      instructions "FROM a\n# b \\\n\t\nLABEL c=d \\\ne=f\n".toList =
        instructions "FROM a\n# b \\\nLABEL c=d \\\ne=f\n".toList := by
  have hwhole : ¬ Divides ["FROM a".toList, "# b \\".toList]
      ["LABEL c=d \\".toList, "e=f".toList] := by
    have hnone : Text.withoutBlanks
        ((openLines ["FROM a".toList, "# b \\".toList]).flatMap lineText) = [] := rfl
    exact fun hdivides => hdivides.1 hnone
  have hblank : ∀ c ∈ ['\t'], Text.isBlank c = true := by
    simp [Text.isBlank]
  refine ⟨hwhole, (instructions_insert_blank_iff hblank ?_ ?_).1.mpr hwhole⟩
  · rfl
  · rfl

/-- Between the lines of an instruction a blank line cuts off what is behind it. -/
theorem labelsOf_insert_blank_divided :
    Text.lines "LABEL a=1 \\\nb=2\n".toList = ["LABEL a=1 \\".toList] ++ ["b=2".toList] ∧
      Text.lines "LABEL a=1 \\\n\nb=2\n".toList =
        ["LABEL a=1 \\".toList] ++ [] :: ["b=2".toList] ∧
      (labelsOf "LABEL a=1 \\\nb=2\n").get? "b" = some "2" ∧
      (labelsOf "LABEL a=1 \\\n\nb=2\n").get? "b" = none := by
  refine ⟨rfl, rfl, ?_, ?_⟩
  · cbv
  · cbv

end ImageBuild.Dockerfile
