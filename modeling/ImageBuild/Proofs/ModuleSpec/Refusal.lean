import ImageBuild.Proofs.ModuleSpec

/-!
# Why texts are no module specifications

A text is refused because of the part in front of its last slash, its front: colons do not
divide this part into two to four pieces, or a piece or the profile is empty.  In a list each
text is judged on its own, so lists that are put together are read part by part.

* `read_eq_error_iff`: what is wrong with a text.
* `ofTexts_eq_error_iff`: what is reported of a list.
* `ofTexts_reports_failures`: lists that are read, and lists that are not.
-/

namespace ImageBuild.ModuleSpec

variable {text front : List Char} {flaw : Flaw} {source : String} {e : Error}

/-- The part of a text in front of its last slash; without a slash, all of it. -/
inductive IsFront : List Char → List Char → Prop where
  | whole {text : List Char} (free : '/' ∉ text) : IsFront text text
  | before {front profile : List Char} (free : '/' ∉ profile) :
      IsFront (front ++ '/' :: profile) front

/-- Colons divide a text into two to four pieces. -/
def HasSegmentCount (front : List Char) : Prop :=
  2 ≤ (front.splitOn ':').length ∧ (front.splitOn ':').length ≤ 4

/-- What is wrong with a text.  A text with a wrong number of pieces may have empty ones as
well, but only their number is wrong with it. -/
inductive HasFlaw (text : List Char) : Flaw → Prop where
  | segmentCount {front : List Char} (isFront : IsFront text front)
      (count : ¬ HasSegmentCount front) : HasFlaw text (.segmentCount (.ofList front))
  | emptyField {front : List Char} (isFront : IsFront text front) (count : HasSegmentCount front)
      (empty : [] ∈ front.splitOn ':' ∨ text = front ++ ['/']) :
      HasFlaw text (.emptyField (.ofList front))

/-- The error with which a text is refused has all of the text, and says what is wrong with it. -/
def IsRefusedWith (source : String) (e : Error) : Prop :=
  ∃ flaw, HasFlaw source.toList flaw ∧ e = .invalidModuleSpec source flaw.message

/-! ## The front of a text -/

theorem isFront_iff : IsFront text front ↔ (cutProfile text).1 = front := by
  unfold cutProfile
  constructor
  · rintro (hfree | hfree)
    · rw [Text.cutLast_eq_none_iff.mpr hfree]
    · rw [Text.cutLast_append hfree]
  · rintro rfl
    cases hcut : Text.cutLast '/' text with
    | none => exact .whole (Text.cutLast_eq_none_iff.mp hcut)
    | some parts =>
        obtain ⟨rfl, hfree⟩ := Text.cutLast_eq_some_iff.mp hcut
        exact .before hfree

namespace IsFront

/-- A text has only one front. -/
theorem eq {other : List Char} (h : IsFront text front) (hother : IsFront text other) :
    other = front :=
  (isFront_iff.mp hother).symm.trans (isFront_iff.mp h)

/-- The profile is empty exactly when a text ends in its last slash. -/
theorem profile_eq_nil_iff (h : IsFront text front) :
    (cutProfile text).2 = some [] ↔ text = front ++ ['/'] := by
  unfold cutProfile
  cases h with
  | whole hfree =>
      rw [Text.cutLast_eq_none_iff.mpr hfree]
      simp
  | before hfree =>
      rw [Text.cutLast_append hfree]
      simp

/-- The number of pieces tells the two flaws apart. -/
theorem hasFlaw_iff (h : IsFront text front) :
    HasFlaw text flaw ↔
      (¬ HasSegmentCount front ∧ .segmentCount (.ofList front) = flaw) ∨
      (HasSegmentCount front ∧ ([] ∈ front.splitOn ':' ∨ text = front ++ ['/']) ∧
        .emptyField (.ofList front) = flaw) := by
  constructor
  · rintro (⟨hother, hcount⟩ | ⟨hother, hcount, hempty⟩)
    · cases h.eq hother
      exact .inl ⟨hcount, rfl⟩
    · cases h.eq hother
      exact .inr ⟨hcount, hempty, rfl⟩
  · rintro (⟨hcount, rfl⟩ | ⟨hcount, hempty, rfl⟩)
    · exact .segmentCount h hcount
    · exact .emptyField h hcount hempty

end IsFront

/-! ## Refusing a text -/

theorem ofSegments?_splitOn_eq_none_iff {profile : Option String} :
    ofSegments? profile (Text.splitOn ':' front) = none ↔ ¬ HasSegmentCount front := by
  rw [HasSegmentCount, Text.splitOn_eq]
  rcases front.splitOn ':' with _ | ⟨name, _ | ⟨stream, _ | ⟨version, _ | ⟨context, _ | more⟩⟩⟩⟩
  all_goals simp [ofSegments?]

/-- **A text is refused exactly for what is wrong with it.** -/
theorem read_eq_error_iff : read text = .error flaw ↔ HasFlaw text flaw := by
  have hfront : IsFront text (cutProfile text).1 := isFront_iff.mpr rfl
  rw [hfront.hasFlaw_iff, ← hfront.profile_eq_nil_iff, ← Text.splitOn_eq]
  -- Whether there is a specification of the pieces depends on their number alone.
  unfold read
  cases hsegments : ofSegments? ((cutProfile text).2.map String.ofList)
      (Text.splitOn ':' (cutProfile text).1) with
  | none =>
      have hcount := ofSegments?_splitOn_eq_none_iff.mp hsegments
      simp [hsegments, hcount]
  | some m =>
      have hcount : HasSegmentCount (cutProfile text).1 := by
        by_contra hcount
        rw [ofSegments?_splitOn_eq_none_iff.mpr hcount] at hsegments
        cases hsegments
      by_cases hempty : [] ∈ Text.splitOn ':' (cutProfile text).1 ∨ (cutProfile text).2 = some []
      · simp [hsegments, hcount, hempty]
      · simp [hsegments, hcount, hempty]

theorem ofText_eq_error_iff : ofText source = .error e ↔ IsRefusedWith source e := by
  unfold ofText IsRefusedWith
  simp only [← read_eq_error_iff]
  cases read source.toList with
  | ok m => simp [Except.mapError]
  | error flaw => simp [Except.mapError, eq_comm]

/-! ## The two messages -/

theorem getLast?_message_segmentCount (segments : String) :
    (Flaw.segmentCount segments).message.toList.getLast? = some 't' := by
  have hmessage : (Flaw.segmentCount segments).message =
      "Module specification " ++ segments ++ " should be in " ++
        "NAME:STREAM[:VERSION[:CONTEXT]][/PROFILE] format" := rfl
  have hend : "NAME:STREAM[:VERSION[:CONTEXT]][/PROFILE] format".toList.getLast? = some 't' := by
    decide
  rw [hmessage, String.toList_append, List.getLast?_append, hend, Option.some_or]

theorem getLast?_message_emptyField (segments : String) :
    (Flaw.emptyField segments).message.toList.getLast? = some 's' := by
  have hmessage : (Flaw.emptyField segments).message =
      "Module specification " ++ segments ++ " contains empty fields" := rfl
  have hend : " contains empty fields".toList.getLast? = some 's' := by decide
  rw [hmessage, String.toList_append, List.getLast?_append, hend, Option.some_or]

/-- The messages differ in their last letters, whatever text they are about. -/
theorem message_segmentCount_ne_emptyField (segments other : String) :
    (Flaw.segmentCount segments).message ≠ (Flaw.emptyField other).message := by
  intro h
  have hlast := getLast?_message_segmentCount segments
  rw [h, getLast?_message_emptyField] at hlast
  cases hlast

/-- The message of a refused text tells whether the number of its pieces is wrong. -/
theorem message_iff {reason : String} (h : IsRefusedWith source (.invalidModuleSpec source reason))
    (hfront : IsFront source.toList front) :
    (reason = (Flaw.segmentCount (.ofList front)).message ↔ ¬ HasSegmentCount front) ∧
      (reason = (Flaw.emptyField (.ofList front)).message ↔ HasSegmentCount front) := by
  have hdiffer := message_segmentCount_ne_emptyField (.ofList front) (.ofList front)
  obtain ⟨flaw, hflaw, heq⟩ := h
  cases heq
  rcases hfront.hasFlaw_iff.mp hflaw with ⟨hcount, rfl⟩ | ⟨hcount, -, rfl⟩
  · simp [hcount, hdiffer]
  · simp [hcount, hdiffer.symm]

/-! ## Lists -/

variable {sources more : List String} {ms : List ModuleSpec}

/-- The texts of a list that are no specifications, each as often as it stands there. -/
def refused (sources : List String) : List String :=
  sources.filter fun source => !(ofText source).isOk

/-- The failures that the outcome of a list reports. -/
def reported : Except Error (List ModuleSpec) → List Error
  | .error (.moduleSpecs errors) => errors
  | _ => []

/-- Each refused text has its failure, in the same order. -/
theorem forall₂_failures (sources : List String) :
    List.Forall₂ IsRefusedWith (refused sources) (failures sources) := by
  induction sources with
  | nil => exact .nil
  | cons source rest ih =>
      rw [refused, List.filter_cons, ← refused, failures, List.filterMap_cons, ← failures, failure?]
      cases hsource : ofText source with
      | ok m => exact ih
      | error e => exact .cons (ofText_eq_error_iff.mp hsource) ih

/-- A text is refused with one error only. -/
theorem rightUnique_isRefusedWith : Relator.RightUnique IsRefusedWith := by
  intro source e other h hother
  exact Except.error.inj
    ((ofText_eq_error_iff.mpr h).symm.trans (ofText_eq_error_iff.mpr hother))

theorem failures_eq_iff {errors : List Error} :
    failures sources = errors ↔ List.Forall₂ IsRefusedWith (refused sources) errors := by
  constructor
  · rintro rfl
    exact forall₂_failures sources
  · exact rightUnique_isRefusedWith.forall₂ (forall₂_failures sources)

theorem failures_eq_nil_iff :
    failures sources = [] ↔ ∀ source ∈ sources, ∃ m, ofText source = .ok m := by
  rw [failures_eq_iff, List.forall₂_nil_right_iff, refused, List.filter_eq_nil_iff]
  refine forall₂_congr fun source _ => ?_
  cases ofText source with
  | ok m => simp [Except.isOk, Except.toBool]
  | error e => simp [Except.isOk, Except.toBool]

/-- **Of a list that is not read, exactly the refused texts are reported.** -/
theorem ofTexts_eq_error_iff :
    ofTexts sources = .error e ↔ ∃ errors, errors ≠ [] ∧ e = .moduleSpecs errors ∧
      List.Forall₂ IsRefusedWith (refused sources) errors := by
  simp only [← failures_eq_iff]
  rw [ofTexts_eq]
  by_cases hnone : failures sources = []
  · simp [hnone]
  · simp [hnone, eq_comm]

theorem reported_ofTexts (sources : List String) :
    reported (ofTexts sources) = failures sources := by
  rw [ofTexts_eq]
  by_cases hnone : failures sources = []
  · rw [if_pos hnone, hnone]
    rfl
  · rw [if_neg hnone]
    rfl

theorem ofTexts_append_eq_ok_iff :
    ofTexts (sources ++ more) = .ok ms ↔
      ∃ first second, ofTexts sources = .ok first ∧ ofTexts more = .ok second ∧
        first ++ second = ms := by
  simp only [ofTexts_eq_ok_iff, specs, failures, List.filterMap_append, List.append_eq_nil_iff]
  constructor
  · rintro ⟨⟨hsources, hmore⟩, rfl⟩
    exact ⟨_, _, ⟨hsources, rfl⟩, ⟨hmore, rfl⟩, rfl⟩
  · rintro ⟨_, _, ⟨hsources, rfl⟩, ⟨hmore, rfl⟩, rfl⟩
    exact ⟨⟨hsources, hmore⟩, rfl⟩

/-- **Every text that is no specification is reported, and no other.**  A list is read exactly
when all its texts are; else the failures stand in the order of their texts, each with all of its
text.  Both what is read of a list and what is reported of it come part by part.  The message of
a failure tells whether the number of pieces is wrong or one of them is empty. -/
theorem ofTexts_reports_failures (sources : List String) :
    ((∃ ms, ofTexts sources = .ok ms) ↔ ∀ source ∈ sources, ∃ m, ofText source = .ok m) ∧
    (∀ ms, ofTexts sources = .ok ms ↔
      List.Forall₂ (fun source m => ofText source = .ok m) sources ms) ∧
    (∀ e, ofTexts sources = .error e ↔ ∃ errors, errors ≠ [] ∧ e = .moduleSpecs errors ∧
      List.Forall₂ IsRefusedWith (refused sources) errors) ∧
    (∀ more, reported (ofTexts (sources ++ more)) =
      reported (ofTexts sources) ++ reported (ofTexts more)) ∧
    (∀ more ms, ofTexts (sources ++ more) = .ok ms ↔
      ∃ first second, ofTexts sources = .ok first ∧ ofTexts more = .ok second ∧
        first ++ second = ms) ∧
    ∀ source e, ofText source = .error e → ∃ front reason, IsFront source.toList front ∧
      e = .invalidModuleSpec source reason ∧
      (reason = (Flaw.segmentCount (.ofList front)).message ↔ ¬ HasSegmentCount front) ∧
      (reason = (Flaw.emptyField (.ofList front)).message ↔ HasSegmentCount front) := by
  refine ⟨?read, fun ms => ofTexts_eq_ok_iff_forall₂, fun e => ofTexts_eq_error_iff, ?reported,
    fun more ms => ofTexts_append_eq_ok_iff, ?message⟩
  case read =>
    simp [ofTexts_eq_ok_iff, failures_eq_nil_iff]
  case reported =>
    intro more
    rw [reported_ofTexts, reported_ofTexts, reported_ofTexts, failures, List.filterMap_append]
    rfl
  case message =>
    intro source e hrefused
    have hrefusal := ofText_eq_error_iff.mp hrefused
    obtain ⟨flaw, -, rfl⟩ := id hrefusal
    have hfront : IsFront source.toList (cutProfile source.toList).1 := isFront_iff.mpr rfl
    exact ⟨_, _, hfront, rfl, message_iff hrefusal hfront⟩

/-- A text that stands twice is reported twice, and the profile is part of what is reported. -/
theorem ofTexts_reports_failures_repeated :
    (∃ errors, ofTexts ["a", "n:s", "x::y/z", "a"] = .error (.moduleSpecs errors) ∧
      List.Forall₂ IsRefusedWith ["a", "x::y/z", "a"] errors) ∧
    ofText "x::y/z" = .error (.invalidModuleSpec "x::y/z" (Flaw.emptyField "x::y").message) ∧
      HasSegmentCount ['x', ':', ':', 'y'] := by
  have hempty : ofText "x::y/z" =
      .error (.invalidModuleSpec "x::y/z" (Flaw.emptyField "x::y").message) := rfl
  have hlist : ∃ e, ofTexts ["a", "n:s", "x::y/z", "a"] = .error e := ⟨_, rfl⟩
  obtain ⟨-, -, hfails, -, -, hmessage⟩ := ofTexts_reports_failures ["a", "n:s", "x::y/z", "a"]
  refine ⟨?_, hempty, ?_⟩
  · obtain ⟨e, hlist⟩ := hlist
    obtain ⟨errors, -, rfl, hpairs⟩ := (hfails e).mp hlist
    exact ⟨errors, hlist, hpairs⟩
  · obtain ⟨front, reason, hfront, heq, -, hcount⟩ := hmessage _ _ hempty
    cases heq
    cases isFront_iff.mp hfront
    exact hcount.mp rfl

end ImageBuild.ModuleSpec
