import ImageBuild.Proofs.CommandLine.Showing
import ImageBuild.Proofs.ModuleSpec.Refusal

/-!
# Specifications without their profile

Without its profile a specification is written as the front of its text.  A slash in this front
is then the last one, and what stands behind it is taken for a profile.

* `IsWellFormed.isFront`: what is left of a text without the profile.
* `ofText_toText_false_eq_ok_iff`: when what is left is read as what it was written for.
* `profile_ne_none_of_slash`: what it is read as otherwise, if it is read at all.
* `module_dropsProfile`: all this for the command that prints specifications.
-/

namespace ImageBuild.ModuleSpec

variable {m n : ModuleSpec} {source : String}

/-! ## What is written without the profile -/

/-- The text without the profile is the front of the text. -/
theorem IsWellFormed.isFront (h : m.IsWellFormed) : IsFront m.write m.writeSegments := by
  cases hprofile : m.profile with
  | none =>
      have hfree : '/' ∉ m.writeSegments := by
        intro hmem
        obtain ⟨s, hs, hslash⟩ := slash_mem_writeSegments_iff.mp hmem
        exact h.slash hprofile s hs hslash
      have hwrite : m.write = m.writeSegments := by
        rw [write, hprofile, field, List.append_nil]
      rw [hwrite]
      exact .whole hfree
  | some p =>
      rw [write, hprofile]
      exact .before (h.profile p hprofile).sep_not_mem

/-! ## How it is read -/

/-- Without its profile a specification is well formed if no slash is left. -/
theorem IsWellFormed.withoutProfile_iff (h : m.IsWellFormed) :
    IsWellFormed { m with profile := none } ↔ ∀ s ∈ m.segments, '/' ∉ s.toList := by
  constructor
  · intro hwithout
    exact hwithout.slash rfl
  · intro hfree
    exact ⟨h.segment, h.context, fun s hs => (nomatch hs), fun _ => hfree⟩

/-- What is left is read as what it was written for if no slash is left. -/
theorem ofText_toText_false_eq_ok_iff (h : m.IsWellFormed) :
    ofText (m.toText false) = .ok { m with profile := none } ↔
      ∀ s ∈ m.segments, '/' ∉ s.toList := by
  have hwritten : toText { m with profile := none } true = m.toText false := by
    rw [← String.toList_inj, toList_toText_true, toList_toText_false, write, field,
      List.append_nil]
    rfl
  rw [ofText_eq_ok_iff, h.withoutProfile_iff]
  exact and_iff_left hwritten

/-- A slash that is left makes a profile of what stands behind it. -/
theorem profile_ne_none_of_slash (hread : ofText (m.toText false) = .ok n)
    (hslash : ∃ s ∈ m.segments, '/' ∈ s.toList) : n.profile ≠ none := by
  intro hnone
  obtain ⟨hformed, hwritten⟩ := ofText_eq_ok_iff.mp hread
  rw [← String.toList_inj, toList_toText_true, toList_toText_false, write, hnone, field,
    List.append_nil] at hwritten
  have hmem : '/' ∈ n.writeSegments := hwritten ▸ slash_mem_writeSegments_iff.mpr hslash
  obtain ⟨s, hs, hc⟩ := slash_mem_writeSegments_iff.mp hmem
  exact hformed.slash hnone s hs hc

/-- What is left has lost its profile, so it does not say the same. -/
theorem ne_of_ofText_toText_false (hprofile : m.profile ≠ none)
    (hread : ofText (m.toText false) = .ok n) : n ≠ m := by
  rintro rfl
  obtain ⟨-, hwritten⟩ := ofText_eq_ok_iff.mp hread
  rw [← String.toList_inj, toList_toText_true, toList_toText_false, write] at hwritten
  have hnil : field '/' n.profile = [] := by simpa using hwritten
  cases hsome : n.profile with
  | none => exact hprofile hsome
  | some p =>
      rw [hsome] at hnil
      cases hnil

end ImageBuild.ModuleSpec

namespace ImageBuild.CommandLine

open ModuleSpec

variable {m : ModuleSpec} {source level : String} {words : List String}

/-- The command that reads a specification prints it first. -/
theorem run_readModule {withProfile : Bool}
    (hrun : readCommandLine words = .ok ⟨level, .readModule ⟨source, withProfile⟩⟩)
    (hread : ofText source = .ok m) (s : FileStore) :
    (run words s).exitCode = 0 ∧
      ∃ fields, (run words s).standardOutput = m.toText withProfile ++ "\n" ++ fields := by
  have hreport : ∃ fields, CommandLine.readModule ⟨source, withProfile⟩ =
      ⟨[], m.toText withProfile :: fields, none⟩ := by
    unfold readModule
    rw [hread]
    exact ⟨_, rfl⟩
  obtain ⟨fields, hreport⟩ := hreport
  rw [run_eq hrun, Action.report, hreport]
  refine ⟨rfl, String.join (fields.map (· ++ "\n")), ?_⟩
  rw [standardOutput_outcome, List.map_cons, String.join_cons]

/-- **Dropping the profile is faithful exactly when no slash is left.**  What is printed without
the profile is the front of the text.  It is read as the specification without its profile if no
segment has a slash in it; with one, it is refused or read as another specification, which has a
profile. -/
theorem module_dropsProfile (h : ofText source = .ok m) :
    IsFront source.toList (m.toText false).toList ∧
    (ofText (m.toText false) = .ok { m with profile := none } ↔
      ∀ s ∈ m.segments, '/' ∉ s.toList) ∧
    ((∃ s ∈ m.segments, '/' ∈ s.toList) →
      (∃ e, ofText (m.toText false) = .error e) ∨
        ∃ n, ofText (m.toText false) = .ok n ∧ n ≠ m ∧ n ≠ { m with profile := none } ∧
          n.profile ≠ none) ∧
    ∀ words level s, readCommandLine words = .ok ⟨level, .readModule ⟨source, false⟩⟩ →
      (run words s).exitCode = 0 ∧
        ∃ fields, (run words s).standardOutput = m.toText false ++ "\n" ++ fields := by
  obtain ⟨hformed, rfl⟩ := ofText_eq_ok_iff.mp h
  refine ⟨?front, ofText_toText_false_eq_ok_iff hformed, ?other,
    fun words level s hrun => run_readModule hrun h s⟩
  case front =>
    rw [toList_toText_true, toList_toText_false]
    exact hformed.isFront
  case other =>
    intro hslash
    have hprofile : m.profile ≠ none := by
      obtain ⟨s, hs, hc⟩ := hslash
      exact fun hnone => hformed.slash hnone s hs hc
    cases hread : ofText (m.toText false) with
    | error e => exact .inl ⟨e, rfl⟩
    | ok n =>
        have hkept : n.profile ≠ none := profile_ne_none_of_slash hread hslash
        refine .inr ⟨n, rfl, ne_of_ofText_toText_false hprofile hread, ?_, hkept⟩
        rintro rfl
        exact hkept rfl

/-- A slash in the stream is taken for the start of a profile. -/
theorem module_dropsProfile_slash :
    ofText "a:n/x/p" = .ok ⟨"a", "n/x", none, none, some "p"⟩ ∧
      (∃ fields, (run ["module", "--no-profile", "a:n/x/p"] Repository.bareStore).standardOutput =
        "a:n/x" ++ "\n" ++ fields) ∧
      ofText "a:n/x" ≠ .ok ⟨"a", "n/x", none, none, none⟩ ∧
      ∃ n, ofText "a:n/x" = .ok n ∧ n ≠ ⟨"a", "n/x", none, none, some "p"⟩ ∧
        n.profile ≠ none := by
  have hread : ofText "a:n/x/p" = .ok ⟨"a", "n/x", none, none, some "p"⟩ := rfl
  have hlater : ofText "a:n/x" = .ok ⟨"a", "n", none, none, some "x"⟩ := rfl
  have hrun : readCommandLine ["module", "--no-profile", "a:n/x/p"] =
      .ok ⟨"warn", .readModule ⟨"a:n/x/p", false⟩⟩ := rfl
  have hslash : ∃ s ∈ segments ⟨"a", "n/x", none, none, some "p"⟩, '/' ∈ s.toList :=
    ⟨"n/x", by simp [segments], by decide⟩
  obtain ⟨-, hfaithful, hother, hprinted⟩ := module_dropsProfile hread
  refine ⟨hread, (hprinted _ _ Repository.bareStore hrun).2, ?_, ?_⟩
  · intro hsame
    exact hfaithful.mp hsame "n/x" (by simp [segments]) (by decide)
  · rcases hother hslash with ⟨e, hrefused⟩ | ⟨n, hagain, hne, -, hprofile⟩
    · cases hlater.symm.trans hrefused
    · exact ⟨n, hagain, hne, hprofile⟩

-- The slash of a name leaves too few segments in front of it.
example : ofText "n/x:s/p" = .ok ⟨"n/x", "s", none, none, some "p"⟩ ∧
    ∃ e, ofText "n/x:s" = .error e :=
  ⟨rfl, _, rfl⟩

end ImageBuild.CommandLine
