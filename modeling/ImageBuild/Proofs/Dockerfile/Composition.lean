import Mathlib
import ImageBuild.Dockerfile.Source
import ImageBuild.Proofs.Dockerfile.Continuation
import ImageBuild.Proofs.Dockerfile.RoundTrip
import ImageBuild.Proofs.OrderedMap

/-!
# Dockerfiles one below the other

A text that is put below a Dockerfile is read on its own, as long as the last line of the
Dockerfile is not continued.  The instructions are those of both texts in turn, the labels of
the lower one go before those of the upper one, and so does its base image if it names one.

* `instructions_append_newline`: the instructions of both texts.
* `isSome_baseImageOf?_iff`: which texts name a base image.
* `instructions_compose`: instructions, labels and base image together.
-/

namespace ImageBuild.Dockerfile

variable {a b content : String} {i : Instruction}

/-- An instruction that names the image of a stage: a `FROM` with a word that is no option. -/
def Instruction.NamesBase (i : Instruction) : Prop :=
  i.keyword = "FROM".toList ∧ ∃ word ∈ Text.words i.arguments, ¬ "--".toList <+: word

/-! ## Instructions -/

/-- **Instructions of a text below another one** do not depend on it, if it is ended. -/
theorem instructions_append_newline {s t : List Char} (h : IsEnded (Text.lines s)) :
    instructions (s ++ '\n' :: t) = instructions s ++ instructions t := by
  have hnothing : carried [] (Text.lines s) = [] := carried_eq_nil h
  unfold instructions
  rw [Text.lines_append_cons, Instruction.ofLines_append]
  rcases Text.lines_append_newline_cases s with hlines | hlines
  · rw [hlines, hnothing]
  · rw [hlines, carried_append_empty, ofLines_append_empty, hnothing]
    exact congrArg (· ++ _) (List.append_nil _)

/-! ## Labels and base images -/

theorem isSome_base?_iff : i.base?.isSome = true ↔ i.NamesBase := by
  unfold Instruction.base? Instruction.NamesBase
  by_cases hfrom : i.keyword = ['F', 'R', 'O', 'M']
  · rw [if_pos hfrom, Option.isSome_map, List.find?_isSome]
    simp [hfrom, ← List.isPrefixOf_iff_prefix]
  · rw [if_neg hfrom]
    simp [hfrom]

/-- There is a base image if some instruction names one. -/
theorem isSome_baseImageOf?_iff :
    (baseImageOf? content).isSome = true ↔ ∃ i ∈ instructions content.toList, i.NamesBase := by
  unfold baseImageOf?
  simp only [← isSome_base?_iff, Option.isSome_iff_ne_none, ne_eq, List.getLast?_eq_none_iff,
    List.filterMap_eq_nil_iff, not_forall, exists_prop]

theorem get?_labelsOf_append (h : instructions content.toList =
    instructions a.toList ++ instructions b.toList) (name : String) :
    (labelsOf content).get? name = ((labelsOf b).get? name).or ((labelsOf a).get? name) := by
  unfold labelsOf
  rw [h, List.flatMap_append, OrderedMap.get?_ofList_append]

theorem baseImageOf?_append (h : instructions content.toList =
    instructions a.toList ++ instructions b.toList) :
    baseImageOf? content = (baseImageOf? b).or (baseImageOf? a) := by
  unfold baseImageOf?
  rw [h, List.filterMap_append, List.getLast?_append]

theorem baseImage_ofFile {path : String} {s : FileStore} (calls : Nat)
    (h : s.readText path = .ok content) :
    (DockerfileSource.ofFile path).baseImage calls s = .ok (baseImageOf? content) := by
  show (s.readText path).map baseImageOf? = _
  rw [h]
  rfl

/-- **Dockerfiles compose.**  If the last line of the upper one that is no comment is not
continued, both together hold the instructions of each in turn, so that nothing of one reaches
into another; and a file with both has the labels and the base image of the lower one where it
has them, and else those of the upper one. -/
theorem instructions_compose (h : IsEnded (Text.lines a.toList)) :
    instructions (a ++ "\n" ++ b).toList = instructions a.toList ++ instructions b.toList ∧
    ∀ (path : String) (s : FileStore) (calls : Nat), s.readText path = .ok (a ++ "\n" ++ b) →
      (∃ labels, (DockerfileSource.ofFile path).labels calls s = .ok labels ∧
        ∀ name, labels.get? name = ((labelsOf b).get? name).or ((labelsOf a).get? name)) ∧
      ((∃ i ∈ instructions b.toList, i.NamesBase) →
        (DockerfileSource.ofFile path).baseImage calls s = .ok (baseImageOf? b)) ∧
      ((¬ ∃ i ∈ instructions b.toList, i.NamesBase) →
        (DockerfileSource.ofFile path).baseImage calls s = .ok (baseImageOf? a)) := by
  have hinstructions : instructions (a ++ "\n" ++ b).toList =
      instructions a.toList ++ instructions b.toList := by
    rw [← instructions_append_newline h]
    simp
  refine ⟨hinstructions, fun path s calls hfile => ?_⟩
  have hbase := baseImage_ofFile calls hfile
  rw [baseImageOf?_append hinstructions] at hbase
  refine ⟨⟨_, labels_ofFile calls hfile, get?_labelsOf_append hinstructions⟩, ?_, ?_⟩
  · intro hnamed
    obtain ⟨base, hsome⟩ := Option.isSome_iff_exists.mp (isSome_baseImageOf?_iff.mpr hnamed)
    rw [hbase, hsome, Option.some_or]
  · intro hunnamed
    have hnone : baseImageOf? b = none := by
      simpa using mt isSome_baseImageOf?_iff.mp hunnamed
    rw [hbase, hnone, Option.none_or]

/-- A stage whose last label leaves a quote open, with a comment below it. -/
def upperPart : String := "FROM fedora AS base\nLABEL n=1 k='1 \\\n m=2\n# end \\"

/-- Labels, the first of them for a name that the upper part has as well. -/
def lowerPart : String := "LABEL k=2 o='3'"

/-- Neither the open quote nor the backslash of the comment reaches into the lower part. -/
theorem instructions_compose_openQuote :
    IsEnded (Text.lines upperPart.toList) ∧
      instructions (upperPart ++ "\n" ++ lowerPart).toList =
        instructions upperPart.toList ++ instructions lowerPart.toList ∧
      (∃ labels, (DockerfileSource.ofFile "Dockerfile").labels 0
          ⟨[], [(["Dockerfile"], .text (upperPart ++ "\n" ++ lowerPart))]⟩ = .ok labels ∧
        labels.get? "n" = some "1" ∧ labels.get? "k" = some "2" ∧ labels.get? "o" = some "3") ∧
      (DockerfileSource.ofFile "Dockerfile").baseImage 0
          ⟨[], [(["Dockerfile"], .text (upperPart ++ "\n" ++ lowerPart))]⟩ =
        .ok (some "fedora") := by
  have hlast : ((Text.lines upperPart.toList).filter fun line => ¬ IsComment line).getLast? =
      some " m=2".toList := rfl
  have hended : IsEnded (Text.lines upperPart.toList) := by
    intro line hline
    rw [hlast] at hline
    cases hline
    decide
  have hnone : baseImageOf? lowerPart = none := rfl
  have hunnamed : ¬ ∃ i ∈ instructions lowerPart.toList, i.NamesBase := by
    rw [← isSome_baseImageOf?_iff, hnone]
    decide
  obtain ⟨hinstructions, hfile⟩ := instructions_compose (b := lowerPart) hended
  obtain ⟨⟨labels, hread, hlabels⟩, -, hbase⟩ := hfile "Dockerfile"
    ⟨[], [(["Dockerfile"], .text (upperPart ++ "\n" ++ lowerPart))]⟩ 0 rfl
  refine ⟨hended, hinstructions, ⟨labels, hread, ?_, ?_, ?_⟩, ?_⟩
  · rw [hlabels]
    cbv
  · rw [hlabels]
    cbv
  · rw [hlabels]
    cbv
  · rw [hbase hunnamed]
    rfl

end ImageBuild.Dockerfile
