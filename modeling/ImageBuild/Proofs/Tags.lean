import Mathlib
import ImageBuild.Proofs.Files.Frame
import ImageBuild.Proofs.OrderedMap
import ImageBuild.Proofs.Pattern.Identifier
import ImageBuild.Proofs.Text.Lines

/-!
# Tags from lists and from files

Texts become tags in two ways: as a list that is given, or as the lines of a file where the
list is empty.  Both ways end in the same filter, so a list and a file that says the same give
the same tags, with the same warnings about texts that are no tags.

* `read_given`, `read_absent`, `read_text`, `read_unreadable`: the ways in which tags are read.
* `foundIn_tagNode_iff`: what the pattern says that tags have to match.
* `filter_trimmedLines`: what the lines of a file are, when each text was written to one.
* `read_filters_alike`: the comparison of a list with a file.
-/

namespace ImageBuild.AdditionalTags

variable {directory fileName : String} {texts : List String} {s : FileStore}

/-! ## Reading -/

/-- Tags that are given are taken without a look at any file. -/
theorem read_given (h : texts ≠ []) (s : FileStore) :
    read directory fileName texts s =
      ⟨refusals texts ++ [⟨.warn, .tags,
        "Tags were read from container.yaml file. Additional tags are being ignored!"⟩],
        .ok {
          tags := .ofList (texts.filter fun text => isTag text.toList)
          isFromList := true
          filePath := joinPath directory fileName }⟩ := by
  have hgiven : texts.isEmpty = false := by simpa using h
  simp only [read, hgiven]
  rfl

/-- Without a list and without a file there are no tags. -/
theorem read_absent (h : s.holds (joinPath directory fileName) = false) :
    read directory fileName [] s =
      ⟨[], .ok {
        tags := .ofList []
        isFromList := false
        filePath := joinPath directory fileName }⟩ := by
  simp only [read, h]
  rfl

/-- The tags of a file are among its lines. -/
theorem read_text {content : String} (h : s.readText (joinPath directory fileName) = .ok content) :
    read directory fileName [] s =
      ⟨⟨.debug, .tags, s!"Reading additional tags from {joinPath directory fileName}"⟩ ::
          refusals (trimmedLines content),
        .ok {
          tags := .ofList ((trimmedLines content).filter fun text => isTag text.toList)
          isFromList := false
          filePath := joinPath directory fileName }⟩ := by
  have hend : refusals (trimmedLines content) ++ [] = refusals (trimmedLines content) :=
    List.append_nil _
  rw [← hend]
  simp only [read, FileStore.holds_of_readText h, h]
  rfl

/-- Something that is there and is no text is the only thing to fail on. -/
theorem read_unreadable {fault : FileFault}
    (hholds : s.holds (joinPath directory fileName) = true)
    (h : s.readText (joinPath directory fileName) = .error fault) :
    read directory fileName [] s =
      ⟨[⟨.debug, .tags, s!"Reading additional tags from {joinPath directory fileName}"⟩],
        .error (.file fault)⟩ := by
  simp only [read, hholds, h]
  rfl

/-! ## Tags -/

/-- One to 127 characters, each of which is a point or occurs in words. -/
def IsTagText (text : String) : Prop :=
  1 ≤ text.length ∧ text.length ≤ 127 ∧
    ∀ c ∈ text.toList, c = '.' ∨ Text.isWordChar c = true

theorem isTag_iff {text : String} : isTag text.toList = true ↔ IsTagText text := by
  unfold isTag IsTagText
  simp only [Bool.and_eq_true, Bool.not_eq_true', List.isEmpty_eq_false_iff,
    decide_eq_true_iff, List.all_eq_true, Bool.or_eq_true, beq_iff_eq, String.length_toList,
    and_assoc, Nat.one_le_iff_ne_zero, ne_eq, String.length_eq_zero_iff,
    String.toList_eq_nil_iff]

instance : DecidablePred IsTagText := fun _ => decidable_of_iff _ isTag_iff

theorem contains_selected_iff {text : String} :
    (NameSet.ofList (texts.filter fun text => isTag text.toList)).contains text = true ↔
      text ∈ texts ∧ IsTagText text := by
  rw [NameSet.contains_ofList_iff, List.mem_filter, isTag_iff]

/-- The tags of an outcome are the texts with a property. -/
def Yields (x : Logged Error AdditionalTags) (P : String → Prop) : Prop :=
  ∃ a, x.result = .ok a ∧ ∀ text, a.tags.contains text = true ↔ P text

theorem yields_read_given (h : texts ≠ []) (s : FileStore) :
    Yields (read directory fileName texts s) fun text => text ∈ texts ∧ IsTagText text := by
  rw [read_given h]
  exact ⟨_, rfl, fun text => contains_selected_iff⟩

theorem yields_read_text {content : String}
    (h : s.readText (joinPath directory fileName) = .ok content) :
    Yields (read directory fileName [] s) fun text =>
      text ∈ trimmedLines content ∧ IsTagText text := by
  rw [read_text h]
  exact ⟨_, rfl, fun text => contains_selected_iff⟩

/-! ## The pattern of tags -/

section TagPattern

open Pattern

/-- The table of characters that occur in words begins behind ASCII. -/
theorem le_of_mem_wordRanges : ∀ r ∈ Text.wordRanges, 128 ≤ r.1 := by
  decide +kernel

/-- The class of word characters holds the characters that occur in words. -/
theorem contains_wordChars_iff {c : Char} :
    CharSet.wordChars.contains c = true ↔ Text.isWordChar c = true := by
  have hcontains : CharSet.wordChars.contains c = true ↔
      (Text.isAsciiLetter c = true ∨ Text.isAsciiDigit c = true ∨ c = '_') ∨
        CharSet.inRanges Text.wordRanges c.toNat = true := by
    rw [isAsciiLetter_iff, isAsciiDigit_iff, eq_underscore_iff, CharSet.wordChars,
      CharSet.contains, Bool.or_eq_true]
    refine or_congr ?_ Iff.rfl
    simp [CharSet.contains, CharSet.inRanges]
    omega
  rw [hcontains]
  by_cases hascii : c.toNat < 128
  · have hranges : CharSet.inRanges Text.wordRanges c.toNat = false := by
      rw [CharSet.inRanges, List.any_eq_false]
      intro r hr
      have hfirst := le_of_mem_wordRanges r hr
      simp
      omega
    simp [Text.isWordChar, hascii, hranges, or_assoc]
  · have hletter : ¬ Text.isAsciiLetter c = true := by
      rw [isAsciiLetter_iff]
      omega
    have hdigit : ¬ Text.isAsciiDigit c = true := by
      rw [isAsciiDigit_iff]
      omega
    have hscore : c ≠ '_' := by
      rw [ne_eq, eq_underscore_iff]
      omega
    simp [Text.isWordChar, hascii, hletter, hdigit, hscore, CharSet.inRanges]

/-- The characters that the pattern of tags allows. -/
def tagChars : CharSet :=
  .union (.union (.ranges []) .wordChars) (.ofChar '.')

/-- The pattern of tags. -/
def tagNode : Node :=
  .sequence (.boundary .textStart)
    (.sequence (.repeated (.char tagChars) 0 (some 127) true) (.boundary .textEnd))

theorem ofText?_tagPattern : Node.ofText? tagPattern.toList = some tagNode := by
  cbv

theorem contains_tagChars_iff {c : Char} :
    tagChars.contains c = true ↔ c = '.' ∨ Text.isWordChar c = true := by
  have hpoint : (CharSet.ofChar '.').contains c = true ↔ c = '.' := by
    rw [← Char.toNat_inj]
    simp [CharSet.ofChar, CharSet.contains, CharSet.inRanges]
    omega
  rw [tagChars, CharSet.contains, CharSet.contains, Bool.or_eq_true, Bool.or_eq_true, hpoint,
    contains_wordChars_iff, or_comm]
  simp [CharSet.contains, CharSet.inRanges]

/-- The pattern of tags takes up to 127 points and characters that occur in words. -/
theorem foundIn_tagNode_iff {text : List Char} :
    tagNode.foundIn text = true ↔
      text.length ≤ 127 ∧ ∀ c ∈ text, c = '.' ∨ Text.isWordChar c = true := by
  rw [tagNode, foundIn_textStart, ne_eq, run_repeated_char_textEnd_eq_nil_iff, Decidable.not_not]
  simp [Place.start, contains_tagChars_iff]

/-- Tags are the texts other than the empty one in which the pattern is found. -/
theorem isTag_iff_foundIn {text : String} :
    isTag text.toList = true ↔ text ≠ "" ∧ tagNode.foundIn text.toList = true := by
  rw [isTag_iff, foundIn_tagNode_iff, IsTagText, Nat.one_le_iff_ne_zero, ne_eq,
    String.length_eq_zero_iff, String.length_toList]

end TagPattern

/-! ## Warnings -/

/-- A warning that a text is no tag. -/
def isRefusal (r : LogRecord) : Bool :=
  r.level == .warn && "Invalid additional tag".toList.isPrefixOf r.text.toList

/-- The warnings about texts that are no tags, on the way to an outcome. -/
def refusalsOf (x : Logged Error AdditionalTags) : List LogRecord :=
  x.records.filter isRefusal

/-- There is one warning for each text that is neither empty nor a tag. -/
theorem refusals_eq (texts : List String) :
    refusals texts = (texts.filter fun text => text ≠ "" ∧ ¬ IsTagText text).map refusal := by
  unfold refusals
  congr 1
  apply List.filter_congr
  intro text _
  have hempty : text.isEmpty = decide (text = "") := by
    rw [Bool.eq_iff_iff, String.isEmpty_iff, decide_eq_true_iff]
  simp [← isTag_iff, hempty]

theorem filter_isRefusal_refusals (texts : List String) :
    (refusals texts).filter isRefusal = refusals texts := by
  rw [List.filter_eq_self]
  intro r hr
  obtain ⟨text, -, rfl⟩ := List.mem_map.mp hr
  simp [isRefusal, refusal]

theorem refusalsOf_read_given (h : texts ≠ []) (s : FileStore) :
    refusalsOf (read directory fileName texts s) = refusals texts := by
  have hother : [(⟨.warn, .tags, "Tags were read from container.yaml file. " ++
      "Additional tags are being ignored!"⟩ : LogRecord)].filter isRefusal = [] := by
    decide
  rw [read_given h, refusalsOf, List.filter_append, filter_isRefusal_refusals]
  exact (congrArg (refusals texts ++ ·) hother).trans (List.append_nil _)

theorem refusalsOf_read_text {content : String}
    (h : s.readText (joinPath directory fileName) = .ok content) :
    refusalsOf (read directory fileName [] s) = refusals (trimmedLines content) := by
  -- The record of the file is no warning.
  rw [read_text h, refusalsOf, List.filter_cons_of_neg (by simp [isRefusal]),
    filter_isRefusal_refusals]

/-! ## Lines -/

/-- A text consists of one line for each of some texts.  A line feed ends a line, perhaps
behind a carriage return; the last line need not be ended. -/
inductive IsLineByLine : List String → List Char → Prop where
  | nil : IsLineByLine [] []
  | unended (text : String) : IsLineByLine [text] text.toList
  | ended (text : String) {lineEnd content : List Char} {texts : List String}
      (hend : lineEnd = ['\n'] ∨ lineEnd = ['\r', '\n']) (rest : IsLineByLine texts content) :
      IsLineByLine (text :: texts) (text.toList ++ lineEnd ++ content)

/-- A text that fits in a line and has no blanks at its ends. -/
def IsLineText (text : String) : Prop :=
  '\n' ∉ text.toList ∧ Text.trim text.toList = text.toList

instance : DecidablePred IsLineText := fun _ => inferInstanceAs (Decidable (_ ∧ _))

theorem filter_map_lines {content : List Char} (h : IsLineByLine texts content)
    (htexts : ∀ text ∈ texts, IsLineText text) {p : String → Bool} (hp : p "" = false) :
    (((Text.lines content).map Text.trim).map String.ofList).filter p = texts.filter p := by
  induction h with
  | nil => rfl
  | unended text =>
      obtain ⟨hline, htrim⟩ := htexts text (List.mem_singleton_self text)
      -- An empty text at the end leaves no line behind.
      by_cases hempty : text = ""
      · simp [hempty, hp, Text.lines]
      · have hne : text.toList ≠ [] := mt String.toList_eq_nil_iff.mp hempty
        rw [Text.lines_eq_singleton hline hne, List.map_singleton, htrim, List.map_singleton,
          String.ofList_toList]
  | ended text hend rest ih =>
      have hrest := ih fun other hother => htexts other (List.mem_cons_of_mem _ hother)
      obtain ⟨hline, htrim⟩ := htexts text List.mem_cons_self
      rw [Text.map_trim_lines_ended hline hend, htrim, List.map_cons, String.ofList_toList,
        List.filter_cons, List.filter_cons, hrest]

/-- The lines of a text that was written line by line are what it was written from, up to
empty texts. -/
theorem filter_trimmedLines {content : String} (h : IsLineByLine texts content.toList)
    (htexts : ∀ text ∈ texts, IsLineText text) {p : String → Bool} (hp : p "" = false) :
    (trimmedLines content).filter p = texts.filter p := by
  rw [← filter_map_lines h htexts hp, trimmedLines, List.map_map]
  rfl

/-! ## Lists and files -/

/-- **Tags from a list and tags from a file go through the same filter.**  It is what the
pattern of tags says.  A list that is written to the file line by line gives the same tags and
the same warnings, and the tags do not depend on the order of the texts or on how often they
occur. -/
theorem read_filters_alike (directory fileName : String) :
    (∀ text : String, isTag text.toList = true ↔ IsTagText text) ∧
    (∃ pattern, Pattern.Node.ofText? tagPattern.toList = some pattern ∧
      ∀ text : String, isTag text.toList = true ↔
        text ≠ "" ∧ pattern.foundIn text.toList = true) ∧
    (∀ texts, texts ≠ [] → ∀ s, Yields (read directory fileName texts s) fun text =>
      text ∈ texts ∧ IsTagText text) ∧
    (∀ s content, s.readText (joinPath directory fileName) = .ok content →
      Yields (read directory fileName [] s) fun text =>
        text ∈ trimmedLines content ∧ IsTagText text) ∧
    (∀ texts (content : String), texts ≠ [] → (∀ text ∈ texts, IsLineText text) →
      IsLineByLine texts content.toList →
      ∀ s s', s'.readText (joinPath directory fileName) = .ok content →
        (∃ given written, (read directory fileName texts s).result = .ok given ∧
          (read directory fileName [] s').result = .ok written ∧ given.tags = written.tags) ∧
        refusalsOf (read directory fileName texts s) =
          (texts.filter fun text => text ≠ "" ∧ ¬ IsTagText text).map refusal ∧
        refusalsOf (read directory fileName [] s') =
          (texts.filter fun text => text ≠ "" ∧ ¬ IsTagText text).map refusal) ∧
    ∀ texts texts', texts ≠ [] → (∀ text, text ∈ texts' ↔ text ∈ texts) →
      ∀ s s', ∃ given given', (read directory fileName texts s).result = .ok given ∧
        (read directory fileName texts' s').result = .ok given' ∧ given'.tags = given.tags := by
  refine ⟨fun text => isTag_iff, ⟨tagNode, ofText?_tagPattern, fun text => isTag_iff_foundIn⟩,
    fun texts => yields_read_given, fun s content => yields_read_text, ?written, ?same⟩
  case written =>
    intro texts content hne htexts hlines s s' hcontent
    have htags : (trimmedLines content).filter (fun text => isTag text.toList) =
        texts.filter fun text => isTag text.toList :=
      filter_trimmedLines hlines htexts rfl
    have hrefusals : refusals (trimmedLines content) = refusals texts :=
      congrArg (List.map refusal) (filter_trimmedLines hlines htexts rfl)
    refine ⟨?_, ?_, ?_⟩
    · rw [read_given hne, read_text hcontent, htags]
      exact ⟨_, _, rfl, rfl, rfl⟩
    · rw [refusalsOf_read_given hne, refusals_eq]
    · rw [refusalsOf_read_text hcontent, hrefusals, refusals_eq]
  case same =>
    intro texts texts' hne hsame s s'
    have hne' : texts' ≠ [] := by
      rintro rfl
      obtain ⟨text, htext⟩ := List.exists_mem_of_ne_nil _ hne
      exact List.not_mem_nil ((hsame text).mpr htext)
    rw [read_given hne, read_given hne']
    refine ⟨_, _, rfl, rfl, NameSet.ext_contains fun text => ?_⟩
    rw [contains_selected_iff, contains_selected_iff, hsame]

/-- Two tags, an empty text and a text that is no tag. -/
def mixedTexts : List String := ["spam", "ba-d", "", "é.x"]

/-- The same in a file, with line ends of both kinds and the last line unended. -/
def mixedStore : FileStore where
  workingDirectory := []
  entries := [(["additional-tags"], .text "spam\r\nba-d\n\né.x")]

/-- Of the texts that are no tags, only the empty one is passed over in silence. -/
theorem read_filters_alike_mixed :
    mixedTexts ≠ [] ∧ (∀ text ∈ mixedTexts, IsLineText text) ∧
      IsLineByLine mixedTexts "spam\r\nba-d\n\né.x".toList ∧
      mixedStore.readText (joinPath "." defaultFileName) = .ok "spam\r\nba-d\n\né.x" ∧
      (∃ given written, (read "." defaultFileName mixedTexts mixedStore).result = .ok given ∧
        (read "." defaultFileName [] mixedStore).result = .ok written ∧
        given.tags = written.tags) ∧
      refusalsOf (read "." defaultFileName mixedTexts mixedStore) = [refusal "ba-d"] ∧
      refusalsOf (read "." defaultFileName [] mixedStore) = [refusal "ba-d"] := by
  have hne : mixedTexts ≠ [] := List.cons_ne_nil _ _
  have htexts : ∀ text ∈ mixedTexts, IsLineText text := by decide
  have hlines : IsLineByLine mixedTexts "spam\r\nba-d\n\né.x".toList :=
    .ended "spam" (.inr rfl) (.ended "ba-d" (.inl rfl) (.ended "" (.inl rfl) (.unended "é.x")))
  have hread : mixedStore.readText (joinPath "." defaultFileName) =
      .ok "spam\r\nba-d\n\né.x" := rfl
  have hrefused : (mixedTexts.filter fun text => text ≠ "" ∧ ¬ IsTagText text) = ["ba-d"] := by
    decide
  obtain ⟨htags, hgiven, hwritten⟩ := (read_filters_alike "." defaultFileName).2.2.2.2.1
    mixedTexts _ hne htexts hlines mixedStore mixedStore hread
  rw [hrefused] at hgiven hwritten
  exact ⟨hne, htexts, hlines, hread, htags, hgiven, hwritten⟩

end ImageBuild.AdditionalTags
