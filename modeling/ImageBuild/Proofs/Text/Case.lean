import Mathlib
import ImageBuild.Proofs.Text.Lines

/-!
# The case of first words

Capitals are told from small letters by nothing but their case: they are blank no more than
these, and no sign becomes another one.  A text whose first word is spelled in another case is
therefore trimmed, cut and continued in the same way.
-/

namespace ImageBuild.Text

variable {c d : Char} {s t : List Char}

/-! ## Characters -/

/-- A capital is what becomes of a small letter, and all else stays. -/
theorem upperAscii_cases (c : Char) :
    (97 ≤ c.toNat ∧ c.toNat ≤ 122 ∧ (upperAscii c).toNat = c.toNat - 32) ∨
    (¬ ('a' ≤ c ∧ c ≤ 'z') ∧ upperAscii c = c) := by
  unfold upperAscii
  split
  · rename_i hletter
    left
    obtain ⟨hfirst, hlast⟩ := hletter
    rw [Char.le_def] at hfirst hlast
    have hrange : 97 ≤ c.toNat ∧ c.toNat ≤ 122 := ⟨hfirst, hlast⟩
    rw [Char.toNat_ofNat, if_pos (Or.inl (by omega))]
    exact ⟨hrange.1, hrange.2, rfl⟩
  · rename_i hother
    exact .inr ⟨hother, rfl⟩

/-- No small letter is left in capitals. -/
theorem not_small_upperAscii (c : Char) : ¬ ('a' ≤ upperAscii c ∧ upperAscii c ≤ 'z') := by
  rcases upperAscii_cases c with ⟨-, hlast, hcapital⟩ | ⟨hother, hsame⟩
  · rintro ⟨hsmall, -⟩
    have hfirst : 97 ≤ (upperAscii c).toNat := hsmall
    omega
  · rw [hsame]
    exact hother

/-- Capitals are blank no more than small letters are. -/
theorem isBlank_upperAscii (c : Char) : isBlank (upperAscii c) = isBlank c := by
  rcases upperAscii_cases c with ⟨hfirst, hlast, hcapital⟩ | ⟨-, hsame⟩
  · rw [Bool.eq_iff_iff]
    simp only [isBlank, hcapital, Bool.or_eq_true, Bool.and_eq_true, decide_eq_true_eq, beq_iff_eq]
    omega
  · rw [hsame]

/-- A character that is no ASCII letter. -/
def IsSign (c : Char) : Prop :=
  c.toNat < 65 ∨ (90 < c.toNat ∧ c.toNat < 97) ∨ 122 < c.toNat

instance : DecidablePred IsSign := fun c =>
  inferInstanceAs (Decidable (c.toNat < 65 ∨ (90 < c.toNat ∧ c.toNat < 97) ∨ 122 < c.toNat))

/-- No letter becomes a sign, and no sign becomes anything else. -/
theorem upperAscii_eq_iff (hd : IsSign d) : upperAscii c = d ↔ c = d := by
  unfold IsSign at hd
  constructor
  · rintro rfl
    rcases upperAscii_cases c with ⟨hfirst, hlast, hraised⟩ | ⟨-, hsame⟩
    · omega
    · exact hsame.symm
  · rintro rfl
    rcases upperAscii_cases c with ⟨hfirst, hlast, -⟩ | ⟨-, hsame⟩
    · omega
    · exact hsame

theorem map_upperAscii_eq_some_iff (hd : IsSign d) {found : Option Char} :
    found.map upperAscii = some d ↔ found = some d := by
  cases found with
  | none => simp
  | some c => simp [upperAscii_eq_iff hd]

/-! ## Texts -/

/-- Texts that differ only in the case of ASCII letters in front of their first blank. -/
inductive IsRecased : List Char → List Char → Prop where
  | same (s : List Char) : IsRecased s s
  | letter {c d : Char} {s t : List Char} (hblank : isBlank c = false)
      (hcase : upperAscii c = upperAscii d) (rest : IsRecased s t) : IsRecased (c :: s) (d :: t)

namespace IsRecased

theorem isBlank_eq (hcase : upperAscii c = upperAscii d) : isBlank c = isBlank d := by
  rw [← isBlank_upperAscii c, hcase, isBlank_upperAscii]

theorem map_upperAscii (h : IsRecased s t) : s.map upperAscii = t.map upperAscii := by
  induction h with
  | same s => rfl
  | letter hblank hcase rest ih => rw [List.map_cons, List.map_cons, hcase, ih]

theorem append (h : IsRecased s t) (a : List Char) : IsRecased (s ++ a) (t ++ a) := by
  induction h with
  | same s => exact .same (s ++ a)
  | letter hblank hcase rest ih => exact .letter hblank hcase ih

theorem eq_nil_iff (h : IsRecased s t) : s = [] ↔ t = [] := by
  cases h with
  | same s => rfl
  | letter => simp

theorem dropLast (h : IsRecased s t) : IsRecased s.dropLast t.dropLast := by
  induction h with
  | same s => exact .same s.dropLast
  | @letter c d s t hblank hcase rest ih =>
      by_cases hs : s = []
      · rw [hs, rest.eq_nil_iff.mp hs]
        exact .same []
      · rw [List.dropLast_cons_of_ne_nil hs, List.dropLast_cons_of_ne_nil (mt rest.eq_nil_iff.mpr hs)]
        exact .letter hblank hcase ih

theorem trimRight (h : IsRecased s t) : IsRecased (trimRight s) (trimRight t) := by
  induction h with
  | same s => exact .same _
  | letter hblank hcase rest ih =>
      rw [trimRight_cons hblank, trimRight_cons ((isBlank_eq hcase).symm.trans hblank)]
      exact .letter hblank hcase ih

theorem trim (h : IsRecased s t) : IsRecased (trim s) (trim t) := by
  cases h with
  | same s => exact .same _
  | letter hblank hcase rest =>
      rw [trim_cons hblank, trim_cons ((isBlank_eq hcase).symm.trans hblank)]
      exact .letter hblank hcase rest.trimRight

/-- The first word is spelled the same in capitals. -/
theorem map_takeWhile (h : IsRecased s t) :
    (s.takeWhile fun c => !isBlank c).map upperAscii =
      (t.takeWhile fun c => !isBlank c).map upperAscii := by
  induction h with
  | same s => rfl
  | letter hblank hcase rest ih => simp [hblank, ← isBlank_eq hcase, hcase, ih]

/-- What is behind the first word is the same. -/
theorem dropWhile_eq (h : IsRecased s t) :
    (s.dropWhile fun c => !isBlank c) = t.dropWhile fun c => !isBlank c := by
  induction h with
  | same s => rfl
  | letter hblank hcase rest ih => simp [hblank, ← isBlank_eq hcase, ih]

/-- A sign stands in front of both texts or of neither. -/
theorem head?_eq_iff (h : IsRecased s t) (hd : IsSign d) :
    s.head? = some d ↔ t.head? = some d := by
  rw [← map_upperAscii_eq_some_iff hd, ← List.head?_map, h.map_upperAscii, List.head?_map,
    map_upperAscii_eq_some_iff hd]

/-- A sign stands at the end of both texts or of neither. -/
theorem getLast?_eq_iff (h : IsRecased s t) (hd : IsSign d) :
    s.getLast? = some d ↔ t.getLast? = some d := by
  rw [← map_upperAscii_eq_some_iff hd, ← List.getLast?_map, h.map_upperAscii, List.getLast?_map,
    map_upperAscii_eq_some_iff hd]

end IsRecased

end ImageBuild.Text
