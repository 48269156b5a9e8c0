import ImageBuild.ModuleSpec
import ImageBuild.Proofs.Log
import ImageBuild.Proofs.Text.Cut

/-!
# Reading and writing module specifications

Reading undoes writing and writing undoes reading.  `IsWellFormed` says which
specifications can be written so that they are read again, and these are exactly
the ones that are ever read; each of them has one written form.
-/

namespace ImageBuild.ModuleSpec

variable {text written : List Char} {m : ModuleSpec}

/-! ## Which specifications can be written -/

/-- A text that stands between separators: there is something, and no separator. -/
structure IsField (sep : Char) (s : String) : Prop where
  ne_empty : s ≠ ""
  sep_not_mem : sep ∉ s.toList

/-- All that is written with colons in between. -/
def segments (m : ModuleSpec) : List String :=
  [m.name, m.stream] ++ m.version.toList ++ m.context.toList

/-- A specification whose fields can be told apart when they are written.  A slash may
stand in a segment only if a profile is written behind it. -/
structure IsWellFormed (m : ModuleSpec) : Prop where
  segment : ∀ s ∈ m.segments, IsField ':' s
  context : m.version = none → m.context = none
  profile : ∀ s, m.profile = some s → IsField '/' s
  slash : m.profile = none → ∀ s ∈ m.segments, '/' ∉ s.toList

/-! ## The segments -/

/-- The segments of a specification are written with colons between them. -/
theorem writeSegments_eq (m : ModuleSpec) :
    m.writeSegments = [':'].intercalate (m.segments.map String.toList) := by
  obtain ⟨name, stream, version, context, profile⟩ := m
  cases version <;> cases context <;>
    simp [writeSegments, field, segments, List.intercalate]

theorem mem_writeSegments_iff {c : Char} :
    c ∈ m.writeSegments ↔ c = ':' ∨ ∃ s ∈ m.segments, c ∈ s.toList := by
  obtain ⟨name, stream, version, context, profile⟩ := m
  cases version <;> cases context <;>
    simp [writeSegments, field, segments] <;> tauto

theorem slash_mem_writeSegments_iff :
    '/' ∈ m.writeSegments ↔ ∃ s ∈ m.segments, '/' ∈ s.toList := by
  rw [mem_writeSegments_iff]
  exact or_iff_right (by decide)

/-- The specification that pieces of a text make up is the one with these segments. -/
theorem ofSegments?_eq_some_iff {profile : Option String} {pieces : List (List Char)} :
    ofSegments? profile pieces = some m ↔
      pieces = m.segments.map String.toList ∧ (m.version = none → m.context = none) ∧
        m.profile = profile := by
  constructor
  · intro h
    unfold ofSegments? at h
    -- Two to four segments are a specification, and no other number of them.
    split at h
    · cases h
      simp [segments]
    · cases h
      simp [segments]
    · cases h
      simp [segments]
    · cases h
  · obtain ⟨name, stream, version, context, profile⟩ := m
    rintro ⟨rfl, hcontext, rfl⟩
    cases version with
    | none =>
        cases hcontext rfl
        simp [segments, ofSegments?]
    | some v =>
        cases context with
        | none => simp [segments, ofSegments?]
        | some c => simp [segments, ofSegments?]

/-! ## The profile -/

/-- A text is cut where its profile is written. -/
theorem cutProfile_eq_iff {profile : Option String} :
    cutProfile text = (written, profile.map String.toList) ↔
      written ++ field '/' profile = text ∧ (∀ s, profile = some s → '/' ∉ s.toList) ∧
        (profile = none → '/' ∉ written) := by
  unfold cutProfile
  cases profile with
  | none =>
      -- A slash anywhere would be taken for the start of a profile.
      cases hcut : Text.cutLast '/' text with
      | none =>
          have hfree : '/' ∉ text := Text.cutLast_eq_none_iff.mp hcut
          simp only [Option.map_none, Prod.mk.injEq, and_true, field, List.append_nil]
          constructor
          · rintro rfl
            exact ⟨rfl, fun s hs => (nomatch hs), fun _ => hfree⟩
          · exact fun h => h.1.symm
      | some parts =>
          obtain ⟨rfl, -⟩ := Text.cutLast_eq_some_iff.mp hcut
          simp only [Option.map_none, Prod.mk.injEq, reduceCtorEq, and_false, field,
            List.append_nil, false_iff]
          rintro ⟨rfl, -, hfree⟩
          exact hfree trivial (by simp)
  | some p =>
      have hcut : Text.cutLast '/' text = some (written, p.toList) ↔
          written ++ field '/' (some p) = text ∧ '/' ∉ p.toList := by
        rw [Text.cutLast_eq_some_iff, eq_comm]
        rfl
      simp only [Option.some.injEq, forall_eq', reduceCtorEq, false_implies, and_true, ← hcut]
      cases Text.cutLast '/' text with
      | none => simp
      | some parts => simp [Prod.ext_iff]

/-! ## Reading and writing -/

/-- A text is read as the specification of its pieces, if none of them is empty. -/
theorem read_eq_ok_iff :
    read text = .ok m ↔
      ofSegments? ((cutProfile text).2.map String.ofList)
          (Text.splitOn ':' (cutProfile text).1) = some m ∧
        [] ∉ Text.splitOn ':' (cutProfile text).1 ∧ (cutProfile text).2 ≠ some [] := by
  unfold read
  cases hsegments : ofSegments? ((cutProfile text).2.map String.ofList)
      (Text.splitOn ':' (cutProfile text).1) with
  | none => simp [hsegments]
  | some found =>
      by_cases hempty : [] ∈ Text.splitOn ':' (cutProfile text).1 ∨ (cutProfile text).2 = some []
      · have hfails : ¬ ([] ∉ Text.splitOn ':' (cutProfile text).1 ∧
            (cutProfile text).2 ≠ some []) := by tauto
        simp [hsegments, hempty, hfails]
      · obtain ⟨hpieces, hprofile⟩ := not_or.mp hempty
        simp [hsegments, hpieces, hprofile]

/-- What is read is well formed, and is written as it was. -/
theorem isWellFormed_of_read (h : read text = .ok m) : m.IsWellFormed ∧ m.write = text := by
  obtain ⟨hsegments, hpieces, hempty⟩ := read_eq_ok_iff.mp h
  obtain ⟨hlist, hcontext, hprofile⟩ := ofSegments?_eq_some_iff.mp hsegments
  have hcut : cutProfile text = ((cutProfile text).1, m.profile.map String.toList) := by
    rw [hprofile, Option.map_map]
    simp
  obtain ⟨htext, hfree, hslash⟩ := cutProfile_eq_iff.mp hcut
  obtain ⟨-, hcolon, hwritten⟩ := Text.splitOn_eq_iff.mp hlist
  rw [← writeSegments_eq] at hwritten
  have hmem {s : String} (hs : s ∈ m.segments) : s.toList ∈ m.segments.map String.toList :=
    List.mem_map_of_mem hs
  rw [hlist] at hpieces
  refine ⟨⟨?segment, hcontext, ?profile, ?slash⟩, ?written⟩
  case segment =>
    intro s hs
    refine ⟨?_, hcolon _ (hmem hs)⟩
    rintro rfl
    exact hpieces (hmem hs)
  case profile =>
    intro s hs
    refine ⟨fun hnil => hempty ?_, hfree s hs⟩
    rw [hcut, hs, hnil]
    rfl
  case slash =>
    intro hnone s hs hc
    apply hslash hnone
    rw [← hwritten]
    exact slash_mem_writeSegments_iff.mpr ⟨s, hs, hc⟩
  case written =>
    rw [write, hwritten]
    exact htext

/-- What is well formed is read again from its written form. -/
theorem IsWellFormed.read_write (h : m.IsWellFormed) : read m.write = .ok m := by
  have hcut : cutProfile m.write = (m.writeSegments, m.profile.map String.toList) := by
    refine cutProfile_eq_iff.mpr ⟨rfl, fun s hs => (h.profile s hs).sep_not_mem, ?_⟩
    intro hnone hmem
    obtain ⟨s, hs, hc⟩ := slash_mem_writeSegments_iff.mp hmem
    exact h.slash hnone s hs hc
  have hsplit : Text.splitOn ':' m.writeSegments = m.segments.map String.toList := by
    refine Text.splitOn_eq_iff.mpr ⟨?_, ?_, (writeSegments_eq m).symm⟩
    · simp [segments]
    · intro piece hpiece
      obtain ⟨s, hs, rfl⟩ := List.mem_map.mp hpiece
      exact (h.segment s hs).sep_not_mem
  rw [read_eq_ok_iff, hcut, hsplit]
  refine ⟨ofSegments?_eq_some_iff.mpr ⟨rfl, h.context, ?_⟩, ?_, ?_⟩
  · simp [Option.map_map]
  · intro hpiece
    obtain ⟨s, hs, hnil⟩ := List.mem_map.mp hpiece
    exact (h.segment s hs).ne_empty (String.toList_eq_nil_iff.mp hnil)
  · intro hsome
    obtain ⟨s, hs, hnil⟩ := Option.map_eq_some_iff.mp hsome
    exact (h.profile s hs).ne_empty (String.toList_eq_nil_iff.mp hnil)

theorem toList_toText_true (m : ModuleSpec) : (m.toText true).toList = m.write := by
  rw [toText, if_pos rfl, String.toList_ofList]

theorem toList_toText_false (m : ModuleSpec) : (m.toText false).toList = m.writeSegments := by
  rw [toText, if_neg Bool.false_ne_true, String.toList_ofList]

theorem ofText_eq_ok_iff {source : String} :
    ofText source = .ok m ↔ m.IsWellFormed ∧ m.toText true = source := by
  rw [← String.toList_inj, toList_toText_true, ofText, mapError_eq_ok_iff]
  constructor
  · exact isWellFormed_of_read
  · rintro ⟨hformed, hwritten⟩
    rw [← hwritten]
    exact hformed.read_write

/-- **Reading module specifications is exactly the inverse of writing them.**  The
specifications that are read are the well-formed ones, each from its written form and
from no other text. -/
theorem ofText_inverse_toText :
    (∀ source m, ofText source = .ok m ↔ m.IsWellFormed ∧ m.toText true = source) ∧
    (∀ source m, ofText source = .ok m → m.toText true = source) ∧
    (∀ m, m.IsWellFormed → ofText (m.toText true) = .ok m) ∧
    ∀ source other m n, ofText source = .ok m → ofText other = .ok n →
      (m = n ↔ source = other) := by
  refine ⟨fun source m => ofText_eq_ok_iff, fun source m h => (ofText_eq_ok_iff.mp h).2,
    fun m h => ofText_eq_ok_iff.mpr ⟨h, rfl⟩, ?_⟩
  intro source other m n hsource hother
  constructor
  · rintro rfl
    rw [← (ofText_eq_ok_iff.mp hsource).2, ← (ofText_eq_ok_iff.mp hother).2]
  · rintro rfl
    exact Except.ok.inj (hsource.symm.trans hother)

/-- With a profile behind it a segment may have a slash in it, and the profile a colon. -/
theorem ofText_inverse_toText_slashes :
    IsWellFormed ⟨"n/x", "s", none, none, some "p:q"⟩ ∧
      ofText "n/x:s/p:q" = .ok ⟨"n/x", "s", none, none, some "p:q"⟩ := by
  have hwritten : toText ⟨"n/x", "s", none, none, some "p:q"⟩ true = "n/x:s/p:q" := by
    decide
  have hformed : IsWellFormed ⟨"n/x", "s", none, none, some "p:q"⟩ := by
    refine ⟨?_, fun _ => rfl, ?_, fun hnone => nomatch hnone⟩
    · intro s hs
      simp only [segments, Option.toList_none, List.append_nil, List.mem_cons,
        List.not_mem_nil, or_false] at hs
      rcases hs with rfl | rfl
      · exact ⟨by decide, by decide⟩
      · exact ⟨by decide, by decide⟩
    · rintro s hs
      cases hs
      exact ⟨by decide, by decide⟩
  refine ⟨hformed, ?_⟩
  rw [← hwritten]
  exact ofText_inverse_toText.2.2.1 _ hformed

/-! ## Lists of specifications -/

/-- Why a text is no specification. -/
def failure? (source : String) : Option Error :=
  match ofText source with
  | .ok _ => none
  | .error e => some e

/-- The failures among the texts of a list, in their order. -/
def failures (sources : List String) : List Error :=
  sources.filterMap failure?

/-- The specifications among the texts of a list, in their order. -/
def specs (sources : List String) : List ModuleSpec :=
  sources.filterMap fun source => (ofText source).toOption

variable {sources : List String} {ms : List ModuleSpec}

theorem outcomes_eq (sources : List String) :
    outcomes sources = (specs sources, failures sources) := by
  induction sources with
  | nil => rfl
  | cons source rest ih =>
      rw [outcomes, specs, failures, List.filterMap_cons, List.filterMap_cons, ← specs,
        ← failures, ih, failure?]
      cases ofText source with
      | ok m => rfl
      | error e => rfl

/-- A list is read if all its texts are, and else all failures are reported. -/
theorem ofTexts_eq (sources : List String) :
    ofTexts sources =
      if failures sources = [] then .ok (specs sources)
      else .error (.moduleSpecs (failures sources)) := by
  unfold ofTexts
  rw [outcomes_eq]
  cases failures sources with
  | nil => rfl
  | cons e rest => rfl

theorem ofTexts_cases (sources : List String) :
    (failures sources = [] ∧ ∃ ms, ofTexts sources = .ok ms) ∨
      (failures sources ≠ [] ∧ ofTexts sources = .error (.moduleSpecs (failures sources))) := by
  rw [ofTexts_eq]
  by_cases hnone : failures sources = []
  · simp [hnone]
  · simp [hnone]

theorem ofTexts_eq_ok_iff :
    ofTexts sources = .ok ms ↔ failures sources = [] ∧ specs sources = ms := by
  rw [ofTexts_eq]
  by_cases hnone : failures sources = []
  · simp [hnone]
  · simp [hnone]

/-- **A list is read text by text.** -/
theorem ofTexts_eq_ok_iff_forall₂ :
    ofTexts sources = .ok ms ↔ List.Forall₂ (fun source m => ofText source = .ok m) sources ms := by
  rw [ofTexts_eq_ok_iff]
  induction sources generalizing ms with
  | nil => simp [specs, failures, eq_comm]
  | cons source rest ih =>
      rw [List.forall₂_cons_left_iff, specs, failures, List.filterMap_cons, List.filterMap_cons,
        ← specs, ← failures, failure?]
      simp only [← ih]
      cases ofText source with
      | ok m =>
          constructor
          · rintro ⟨hnone, rfl⟩
            exact ⟨m, specs rest, rfl, ⟨hnone, rfl⟩, rfl⟩
          · rintro ⟨_, _, ⟨⟩, ⟨hnone, rfl⟩, rfl⟩
            exact ⟨hnone, rfl⟩
      | error e => simp

/-- Specifications that have been read from a list are written as its texts. -/
theorem map_toText_of_ofTexts (h : ofTexts sources = .ok ms) :
    ms.map (toText · true) = sources := by
  rw [ofTexts_eq_ok_iff_forall₂] at h
  induction h with
  | nil => rfl
  | cons hfirst _ ih => rw [List.map_cons, (ofText_eq_ok_iff.mp hfirst).2, ih]

/-- Specifications that have been read from a list are read again from what they are written as. -/
theorem ofText_toText_of_ofTexts (h : ofTexts sources = .ok ms) (hm : m ∈ ms) :
    ofText (m.toText true) = .ok m := by
  rw [ofTexts_eq_ok_iff_forall₂] at h
  induction h with
  | nil => cases hm
  | cons hfirst _ ih =>
      rcases List.mem_cons.mp hm with rfl | hm
      · rwa [(ofText_eq_ok_iff.mp hfirst).2]
      · exact ih hm

end ImageBuild.ModuleSpec
