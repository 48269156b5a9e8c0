import ImageBuild.Dockerfile.Source
import ImageBuild.Proofs.Dockerfile.Continuation
import ImageBuild.Proofs.Dockerfile.Labels
import ImageBuild.Proofs.OrderedMap

/-!
# Labels written to a Dockerfile and read again

A Dockerfile may set labels by any number of instructions with any number of
labels each, on one line or on several.  However they are laid out, the labels
that are read are those that were written.
-/

namespace ImageBuild.Dockerfile

/-! ## Layouts -/

/-- What stands between two labels of an instruction. -/
inductive Separator where
  | space
  | continuation
deriving DecidableEq, Repr

def Separator.written : Separator → List Char
  | space => [' ']
  | continuation => [' ', '\\', '\n']

/-- What a separator becomes when lines are joined. -/
def Separator.joined : Separator → List Char
  | space => [' ']
  | continuation => [' ', ' ']

/-- An instruction that sets labels, as it is laid out. -/
structure LabelLayout where
  first : String × String
  more : List (Separator × (String × String))
deriving DecidableEq, Repr

namespace LabelLayout

def pairs (l : LabelLayout) : List (String × String) :=
  l.first :: l.more.map Prod.snd

/-- The keyword, with the space behind it. -/
def keyword : List Char := ['L', 'A', 'B', 'E', 'L', ' ']

/-- The labels behind the first one. -/
def writeBehind (more : List (Separator × (String × String))) : List Char :=
  more.flatMap fun entry => entry.1.written ++ writePair entry.2

def write (l : LabelLayout) : List Char :=
  keyword ++ writePair l.first ++ writeBehind l.more

/-- The labels behind the first one when their lines are joined. -/
def joinBehind (more : List (Separator × (String × String))) : List Char :=
  writeMore (more.map fun entry => (entry.1.joined, entry.2))

theorem writeBehind_cons (separator : Separator) (pair : String × String)
    (more : List (Separator × (String × String))) :
    writeBehind ((separator, pair) :: more) =
      separator.written ++ (writePair pair ++ writeBehind more) := by
  simp [writeBehind]

theorem joinBehind_cons (separator : Separator) (pair : String × String)
    (more : List (Separator × (String × String))) :
    joinBehind ((separator, pair) :: more) =
      separator.joined ++ (writePair pair ++ joinBehind more) := by
  simp [joinBehind, writeMore]

/-- The instruction that is read. -/
def toInstruction (l : LabelLayout) : Instruction where
  keyword := ['L', 'A', 'B', 'E', 'L']
  arguments := writePair l.first ++ joinBehind l.more

/-- The instructions of a list, each on lines of its own. -/
def writeAll (layouts : List LabelLayout) : List Char :=
  layouts.flatMap fun l => l.write ++ ['\n']

end LabelLayout

/-- A Dockerfile with nothing but labels; its last line need not be ended. -/
def writeLabels (isEnded : Bool) (layouts : List LabelLayout) : String :=
  let text := LabelLayout.writeAll layouts
  String.ofList (if isEnded then text else text.dropLast)

/-! ## Lines of labels -/

/-- A text that reads as a line of its own, or as the part of one behind a quote. -/
structure IsLabelText (text : List Char) : Prop where
  head : ∃ c rest, text = c :: rest ∧ Text.isBlank c = false ∧ c ≠ '#'
  last : text.getLast? = some '"'
  newline : '\n' ∉ text

variable {pair : String × String} {text pending : List Char}

theorem newline_not_mem_quoted (h : '\n' ∉ text) : '\n' ∉ quoted text := by
  have hescape (c : Char) (hc : c ∈ text) : '\n' ∉ escapeChar c := by
    have hne : c ≠ '\n' := fun heq => h (heq ▸ hc)
    unfold escapeChar
    split
    · simp [Ne.symm hne]
    · simp [Ne.symm hne]
  simp only [quoted, List.mem_cons, List.mem_append, List.mem_flatMap, List.not_mem_nil]
  rintro (heq | ⟨c, hc, hmem⟩ | heq | hnone)
  · cases heq
  · exact hescape c hc hmem
  · cases heq
  · exact hnone

theorem getLast?_writePair : (writePair pair).getLast? = some '"' := by
  have hshape : writePair pair =
      (quoted pair.1.toList ++ '=' :: '"' :: pair.2.toList.flatMap escapeChar) ++ ['"'] := by
    simp [writePair, quoted]
  rw [hshape, List.getLast?_concat]

theorem newline_not_mem_writePair (h : IsLabelPair pair) : '\n' ∉ writePair pair := by
  simp [writePair, newline_not_mem_quoted h.name, newline_not_mem_quoted h.value]

theorem isLabelText_writePair (h : IsLabelPair pair) : IsLabelText (writePair pair) where
  head := ⟨'"', _, rfl, by decide, by decide⟩
  last := getLast?_writePair
  newline := newline_not_mem_writePair h

/-- A label behind a text, with a gap between them. -/
theorem IsLabelText.append {front : List Char} (gap : List Char) (hfront : IsLabelText front)
    (h : IsLabelPair pair) (hgap : '\n' ∉ gap) :
    IsLabelText (front ++ (gap ++ writePair pair)) := by
  obtain ⟨c, rest, rfl, hblank, hcomment⟩ := hfront.head
  refine ⟨⟨c, rest ++ (gap ++ writePair pair), rfl, hblank, hcomment⟩, ?_, ?_⟩
  · rw [List.getLast?_append, List.getLast?_append, getLast?_writePair]
    rfl
  · simp only [List.mem_append, not_or]
    exact ⟨hfront.newline, hgap, newline_not_mem_writePair h⟩

/-- Such a text is read as it stands. -/
theorem IsLabelText.isRead (pending : List Char) (h : IsLabelText text) :
    Instruction.IsRead pending text text := by
  obtain ⟨c, rest, rfl, hblank, hcomment⟩ := h.head
  refine ⟨Text.trim_eq_self ?_ ?_, ?_, .inl (List.cons_ne_nil c rest)⟩
  · rintro d hd
    cases hd
    exact hblank
  · intro d hd
    rw [h.last] at hd
    cases hd
    decide
  · simpa using hcomment

theorem IsLabelText.isRead_continued (h : IsLabelText text) :
    Instruction.IsRead pending (text ++ [' ', '\\']) ((text ++ [' ']) ++ ['\\']) := by
  obtain ⟨c, rest, rfl, hblank, hcomment⟩ := h.head
  refine ⟨?_, by simpa using hcomment, .inl (by simp)⟩
  rw [List.append_assoc]
  apply Text.trim_eq_self
  · rintro d hd
    cases hd
    exact hblank
  · intro d hd
    rw [List.getLast?_append] at hd
    cases hd
    decide

/-- **An instruction is read from its lines.**  The text that is to be continued grows by
one line at each continuation, and what is left are the labels behind it. -/
theorem ofLines_writeBehind {front rest : List Char} (pending : List Char)
    (hfront : IsLabelText front) {more : List (Separator × (String × String))}
    (hmore : ∀ entry ∈ more, IsLabelPair entry.2) :
    Instruction.ofLines pending
        (Text.lines (front ++ (LabelLayout.writeBehind more ++ '\n' :: rest))) =
      (Instruction.ofText? (pending ++ front ++ LabelLayout.joinBehind more)).toList ++
        Instruction.ofLines [] (Text.lines rest) := by
  -- `front` is the line so far: a space lets it grow, and a continuation begins it anew.
  induction more generalizing pending front with
  | nil =>
      have hlast : front.getLast? ≠ some '\\' := by
        rw [hfront.last]
        decide
      have hlines : Text.lines (front ++ (LabelLayout.writeBehind [] ++ '\n' :: rest)) =
          front :: Text.lines rest := Text.lines_append hfront.newline rest
      have hjoined : LabelLayout.joinBehind [] = [] := rfl
      rw [hlines, Instruction.ofLines_ended (hfront.isRead pending) hlast, hjoined, List.append_nil]
  | cons entry more ih =>
      obtain ⟨separator, pair⟩ := entry
      have hpair : IsLabelPair pair := hmore (separator, pair) List.mem_cons_self
      have hrest : ∀ entry ∈ more, IsLabelPair entry.2 := fun entry hentry =>
        hmore entry (List.mem_cons_of_mem _ hentry)
      rw [LabelLayout.writeBehind_cons, LabelLayout.joinBehind_cons]
      cases separator with
      | space =>
          have hread := ih pending (hfront.append [' '] hpair (by decide)) hrest
          simpa only [Separator.written, Separator.joined, List.append_assoc] using hread
      | continuation =>
          have hlines : Text.lines (front ++ (Separator.continuation.written ++
                (writePair pair ++ LabelLayout.writeBehind more) ++ '\n' :: rest)) =
              (front ++ [' ', '\\']) ::
                Text.lines (writePair pair ++ (LabelLayout.writeBehind more ++ '\n' :: rest)) := by
            rw [← Text.lines_append (by simp [hfront.newline])]
            simp [Separator.written]
          rw [hlines, Instruction.ofLines_continued hfront.isRead_continued,
            ih _ (isLabelText_writePair hpair) hrest]
          simp only [Separator.joined, List.append_assoc, List.cons_append, List.nil_append]

/-! ## Instructions of labels -/

variable {layouts : List LabelLayout} {l : LabelLayout}

theorem IsLabelText.append_joinBehind {front : List Char} (hfront : IsLabelText front)
    {more : List (Separator × (String × String))} (hmore : ∀ entry ∈ more, IsLabelPair entry.2) :
    IsLabelText (front ++ LabelLayout.joinBehind more) := by
  induction more generalizing front with
  | nil => simpa [LabelLayout.joinBehind, writeMore] using hfront
  | cons entry more ih =>
      obtain ⟨separator, pair⟩ := entry
      have hgap : '\n' ∉ separator.joined := by
        cases separator <;> decide
      have hline := hfront.append _ (hmore (separator, pair) List.mem_cons_self) hgap
      have hread := ih hline fun entry hentry => hmore entry (List.mem_cons_of_mem _ hentry)
      rw [LabelLayout.joinBehind_cons]
      simpa only [List.append_assoc] using hread

/-- The labels of a layout can be written. -/
def LabelLayout.IsWritable (l : LabelLayout) : Prop :=
  ∀ pair ∈ l.pairs, IsLabelPair pair

instance : DecidablePred LabelLayout.IsWritable := fun l =>
  inferInstanceAs (Decidable (∀ pair ∈ l.pairs, IsLabelPair pair))

theorem LabelLayout.IsWritable.more (h : l.IsWritable) :
    ∀ entry ∈ l.more, IsLabelPair entry.2 :=
  fun entry hentry => h entry.2 (List.mem_cons_of_mem _ (List.mem_map_of_mem hentry))

/-- The text of an instruction is divided behind its keyword. -/
theorem ofText?_layout (h : l.IsWritable) :
    Instruction.ofText? (LabelLayout.keyword ++ writePair l.first ++
      LabelLayout.joinBehind l.more) = some l.toInstruction := by
  have hfirst : IsLabelPair l.first := h l.first List.mem_cons_self
  have harguments : IsLabelText l.toInstruction.arguments :=
    (isLabelText_writePair hfirst).append_joinBehind h.more
  have htrim : Text.trim l.toInstruction.arguments = l.toInstruction.arguments :=
    (harguments.isRead []).1
  have htext : Text.trim (LabelLayout.keyword ++ l.toInstruction.arguments) =
      LabelLayout.keyword ++ l.toInstruction.arguments := by
    apply Text.trim_eq_self
    · rintro c hc
      cases hc
      decide
    · intro c hc
      rw [List.getLast?_append, harguments.last] at hc
      cases hc
      decide
  have hdivided : Instruction.ofText? (LabelLayout.keyword ++ l.toInstruction.arguments) =
      some ⟨['L', 'A', 'B', 'E', 'L'], Text.trim (' ' :: l.toInstruction.arguments)⟩ := by
    rw [Instruction.ofText?_eq, htext]
    rfl
  rw [List.append_assoc]
  rw [Text.trim_cons_blank (by decide), htrim] at hdivided
  exact hdivided

/-- Each layout is read as one instruction. -/
theorem ofLines_writeAll (h : ∀ l ∈ layouts, l.IsWritable) :
    Instruction.ofLines [] (Text.lines (LabelLayout.writeAll layouts)) =
      layouts.map LabelLayout.toInstruction := by
  induction layouts with
  | nil => rfl
  | cons l rest ih =>
      have hl : l.IsWritable := h l List.mem_cons_self
      have hfront : IsLabelText (LabelLayout.keyword ++ writePair l.first) := by
        have hfirst := isLabelText_writePair (hl l.first List.mem_cons_self)
        refine ⟨⟨'L', _, rfl, by decide, by decide⟩, ?_, ?_⟩
        · rw [List.getLast?_append, hfirst.last]
          rfl
        · rw [List.mem_append, not_or]
          exact ⟨by decide, hfirst.newline⟩
      have hall : LabelLayout.writeAll (l :: rest) =
          (LabelLayout.keyword ++ writePair l.first) ++
            (LabelLayout.writeBehind l.more ++ '\n' :: LabelLayout.writeAll rest) := by
        simp [LabelLayout.writeAll, LabelLayout.write]
      rw [hall, ofLines_writeBehind [] hfront hl.more, List.nil_append, ofText?_layout hl,
        ih fun other hother => h other (List.mem_cons_of_mem _ hother)]
      rfl

theorem isGap_joined (separator : Separator) : IsGap separator.joined := by
  cases separator with
  | space => simp [IsGap, Separator.joined, Text.isBlank]
  | continuation => simp [IsGap, Separator.joined, Text.isBlank]

theorem labelPairs_toInstruction (h : l.IsWritable) :
    l.toInstruction.labelPairs = l.pairs := by
  have hpairs : (l.more.map fun entry => (entry.1.joined, entry.2)).map Prod.snd =
      l.more.map Prod.snd := by
    rw [List.map_map]
    rfl
  have hgaps : ∀ entry ∈ l.more.map fun entry => (entry.1.joined, entry.2), IsGap entry.1 := by
    intro entry hentry
    obtain ⟨⟨separator, pair⟩, -, rfl⟩ := List.mem_map.mp hentry
    exact isGap_joined separator
  have hread := labelPairs_write l.first hgaps (by rw [hpairs]; exact h)
  rw [hpairs] at hread
  exact hread

theorem getLast?_append_writeBehind {front : List Char} (h : front.getLast? = some '"')
    (more : List (Separator × (String × String))) :
    (front ++ LabelLayout.writeBehind more).getLast? = some '"' := by
  induction more generalizing front with
  | nil => simpa [LabelLayout.writeBehind] using h
  | cons entry more ih =>
      obtain ⟨separator, pair⟩ := entry
      rw [LabelLayout.writeBehind_cons, ← List.append_assoc, ← List.append_assoc]
      apply ih
      rw [List.getLast?_append, getLast?_writePair]
      rfl

theorem getLast?_write (l : LabelLayout) : l.write.getLast? = some '"' := by
  apply getLast?_append_writeBehind
  rw [List.getLast?_append, getLast?_writePair]
  rfl

/-- The end of the last line makes no difference. -/
theorem lines_dropLast_writeAll :
    Text.lines (LabelLayout.writeAll layouts).dropLast =
      Text.lines (LabelLayout.writeAll layouts) := by
  rcases List.eq_nil_or_concat layouts with rfl | ⟨init, l, rfl⟩
  · rfl
  · have hall : LabelLayout.writeAll (init.concat l) =
        (LabelLayout.writeAll init ++ l.write) ++ ['\n'] := by
      simp [LabelLayout.writeAll]
    have hlast : (LabelLayout.writeAll init ++ l.write).getLast? = some '"' := by
      rw [List.getLast?_append, getLast?_write]
      rfl
    have hne : LabelLayout.writeAll init ++ l.write ≠ [] := by
      intro hnil
      rw [hnil] at hlast
      cases hlast
    -- The text in front of the last line feed ends in a quote, not in another one.
    rw [hall, List.dropLast_concat, Text.lines_append_newline (by rw [hlast]; decide) hne]

/-- **Labels that are written to a Dockerfile are read from it.** -/
theorem labelsOf_writeLabels (isEnded : Bool) (h : ∀ l ∈ layouts, l.IsWritable) :
    labelsOf (writeLabels isEnded layouts) =
      OrderedMap.ofList (layouts.flatMap LabelLayout.pairs) := by
  have hlines : Text.lines (writeLabels isEnded layouts).toList =
      Text.lines (LabelLayout.writeAll layouts) := by
    cases isEnded with
    | true => simp [writeLabels]
    | false => simp [writeLabels, lines_dropLast_writeAll]
  have hpairs : (layouts.map LabelLayout.toInstruction).flatMap Instruction.labelPairs =
      layouts.flatMap LabelLayout.pairs := by
    rw [List.flatMap_map, List.flatMap_def, List.flatMap_def,
      List.map_congr_left fun l hl => labelPairs_toInstruction (h l hl)]
  rw [labelsOf, instructions, hlines, ofLines_writeAll h, hpairs]

/-! ## Files -/

/-- All labels of a Dockerfile can be written. -/
theorem isLabelPair_of_mem_labelsOf {content : String} {entry : String × String}
    (h : entry ∈ (labelsOf content).entries) : IsLabelPair entry := by
  obtain ⟨i, hi, hpair⟩ := List.mem_flatMap.mp (OrderedMap.mem_of_mem_entries_ofList h)
  have hline : '\n' ∉ i.arguments :=
    Instruction.newline_not_mem_arguments List.not_mem_nil
      (fun line hmem => Text.not_mem_of_mem_lines hmem) hi
  rw [Instruction.labelPairs] at hpair
  split at hpair
  · exact isLabelPair_of_mem_labelPairs hline hpair
  · cases hpair

theorem labels_ofFile {path content : String} {s : FileStore} (calls : Nat)
    (h : s.readText path = .ok content) :
    (DockerfileSource.ofFile path).labels calls s = .ok (labelsOf content) := by
  show (s.readText path).map labelsOf = _
  rw [h]
  rfl

/-- **Labels make the round trip through a Dockerfile.**  What is written in any layout is
read, the last value of each name; and what is read from any Dockerfile can be written in any
layout, and is read again. -/
theorem labels_roundTrip (path : String) (calls : Nat) (s : FileStore) :
    (∀ isEnded layouts, (∀ l ∈ layouts, l.IsWritable) →
      s.readText path = .ok (writeLabels isEnded layouts) →
      ∃ labels, (DockerfileSource.ofFile path).labels calls s = .ok labels ∧
        ∀ name, labels.get? name = lastValue? name (layouts.flatMap LabelLayout.pairs)) ∧
    (∀ content, s.readText path = .ok content →
      ∃ labels, (DockerfileSource.ofFile path).labels calls s = .ok labels ∧
        (∀ entry ∈ labels.entries, IsLabelPair entry) ∧
        ∀ isEnded layouts, (layouts.flatMap LabelLayout.pairs).Perm labels.entries →
          ∀ t again, t.readText path = .ok (writeLabels isEnded layouts) →
            (DockerfileSource.ofFile path).labels again t = .ok labels) := by
  constructor
  · intro isEnded layouts hwritable hread
    refine ⟨_, labels_ofFile calls hread, fun name => ?_⟩
    rw [labelsOf_writeLabels isEnded hwritable, OrderedMap.get?_ofList]
  · intro content hread
    refine ⟨_, labels_ofFile calls hread, fun entry => isLabelPair_of_mem_labelsOf, ?_⟩
    intro isEnded layouts hperm t again hagain
    have hwritable : ∀ l ∈ layouts, l.IsWritable := fun l hl pair hpair =>
      isLabelPair_of_mem_labelsOf (hperm.mem_iff.mp (List.mem_flatMap.mpr ⟨l, hl, hpair⟩))
    rw [labels_ofFile again hagain, labelsOf_writeLabels isEnded hwritable,
      OrderedMap.ofList_of_perm_entries hperm]

/-- A layout over two lines, with a name that is given twice. -/
def spreadLayout : LabelLayout where
  first := ("summary", "a \"b\" \\")
  more := [(.continuation, ("#", "")), (.space, ("summary", "c=d"))]

theorem labels_roundTrip_spreadLayout :
    ∃ labels, (DockerfileSource.ofFile "Dockerfile").labels 0
        ⟨[], [(["Dockerfile"], .text (writeLabels false [spreadLayout]))]⟩ = .ok labels ∧
      labels.get? "summary" = some "c=d" ∧ labels.get? "#" = some "" := by
  have hwritable : ∀ l ∈ [spreadLayout], l.IsWritable := by
    decide
  obtain ⟨labels, hread, hlabels⟩ := (labels_roundTrip "Dockerfile" 0
    ⟨[], [(["Dockerfile"], .text (writeLabels false [spreadLayout]))]⟩).1 false [spreadLayout]
      hwritable rfl
  refine ⟨labels, hread, ?_, ?_⟩
  · rw [hlabels]
    rfl
  · rw [hlabels]
    rfl

end ImageBuild.Dockerfile
