import ImageBuild.Pattern.Dialect
import ImageBuild.Proofs.Pattern.Repetition

/-!
# The pattern of identifiers

The pattern `^[A-Za-z_][A-Za-z0-9_]*$` is found in a text exactly when the text as
a whole is an identifier.
-/

namespace ImageBuild.Pattern

/-- A text is an identifier as a whole: a letter or an underscore, and behind it
letters, underscores and digits. -/
def IsIdentifier : List Char → Prop
  | [] => False
  | c :: rest =>
      (Text.isAsciiLetter c = true ∨ c = '_') ∧
        ∀ d ∈ rest, Text.isAsciiLetter d = true ∨ d = '_' ∨ Text.isAsciiDigit d = true

/-- The characters that an identifier may start with. -/
def identifierStart : CharSet :=
  .union (.union (.union (.ranges []) (.ranges [(65, 90)])) (.ranges [(97, 122)]))
    (.ranges [(95, 95)])

/-- The characters that may follow in an identifier. -/
def identifierRest : CharSet :=
  .union (.union (.union (.union (.ranges []) (.ranges [(65, 90)])) (.ranges [(97, 122)]))
    (.ranges [(48, 57)])) (.ranges [(95, 95)])

/-- The pattern of identifiers in writing. -/
def identifierText : String := "^[A-Za-z_][A-Za-z0-9_]*$"

/-- The pattern of identifiers. -/
def identifier : Pattern where
  shown := identifierText.toList
  node :=
    .sequence (.boundary .textStart)
      (.sequence (.char identifierStart)
        (.sequence (.repeated (.char identifierRest) 0 none true) (.boundary .textEnd)))

theorem ofText?_identifierText : Pattern.ofText? identifierText.toList = some identifier := by
  cbv

theorem isAsciiLetter_iff {c : Char} :
    Text.isAsciiLetter c = true ↔
      (97 ≤ c.toNat ∧ c.toNat ≤ 122) ∨ (65 ≤ c.toNat ∧ c.toNat ≤ 90) := by
  simp only [Text.isAsciiLetter, Bool.or_eq_true, Bool.and_eq_true, decide_eq_true_eq,
    Char.le_def, UInt32.le_iff_toNat_le]
  rfl

theorem isAsciiDigit_iff {c : Char} :
    Text.isAsciiDigit c = true ↔ 48 ≤ c.toNat ∧ c.toNat ≤ 57 := by
  simp only [Text.isAsciiDigit, Bool.and_eq_true, decide_eq_true_eq, Char.le_def,
    UInt32.le_iff_toNat_le]
  rfl

theorem eq_underscore_iff {c : Char} : c = '_' ↔ c.toNat = 95 := by
  constructor
  · rintro rfl
    rfl
  · intro h
    exact Char.toNat_inj.mp h

theorem contains_identifierStart_iff {c : Char} :
    identifierStart.contains c = true ↔ Text.isAsciiLetter c = true ∨ c = '_' := by
  rw [isAsciiLetter_iff, eq_underscore_iff]
  simp [identifierStart, CharSet.contains, CharSet.inRanges]
  omega

theorem contains_identifierRest_iff {c : Char} :
    identifierRest.contains c = true ↔
      Text.isAsciiLetter c = true ∨ c = '_' ∨ Text.isAsciiDigit c = true := by
  rw [isAsciiLetter_iff, isAsciiDigit_iff, eq_underscore_iff]
  simp [identifierRest, CharSet.contains, CharSet.inRanges]
  omega

/-- **The pattern of identifiers is found in identifiers only, and in all of
them.** -/
theorem foundIn_identifier_iff {text : List Char} :
    identifier.node.foundIn text = true ↔ IsIdentifier text := by
  rw [identifier, foundIn_textStart, ne_eq, run_sequence_eq_nil_iff]
  cases text with
  | nil => simp [run_char_at_end, Place.start, IsIdentifier]
  | cons c rest =>
      have hafter : (⟨Place.start (c :: rest), []⟩ : Progress).place.after = c :: rest := rfl
      rw [run_char hafter]
      by_cases hc : identifierStart.contains c = true
      · simp only [hc, if_true, List.mem_singleton, forall_eq,
          run_repeated_char_textEnd_eq_nil_iff, Option.not_mem_none, false_implies, implies_true,
          true_and, Decidable.not_not]
        have hstart := contains_identifierStart_iff.mp hc
        simp only [Progress.behind, contains_identifierRest_iff, IsIdentifier, hstart, true_and]
      · have hstart : ¬ (Text.isAsciiLetter c = true ∨ c = '_') := fun h =>
          hc (contains_identifierStart_iff.mpr h)
        simp [hc, IsIdentifier, hstart]

/-- A line break behind an identifier does not belong to it. -/
example : identifier.node.foundIn "name\n".toList = false := by decide

end ImageBuild.Pattern
