import Mathlib
import ImageBuild.Proofs.Configuration.Failure

/-!
# Whether images are rebuilt on their own

Of all entries of a settings file only one counts, the last one for the switch: its value is a
word for yes, a word for no, or the reason for which the configuration cannot be read.  Where
there is none, images are not rebuilt.

* `lastValue?_switch_eq_some_iff`: which value is the one that counts.
* `boolean?_eq`: what a value says.
* `load_heeds_last_switch`: how reading a configuration goes on from there.
-/

namespace ImageBuild

namespace Settings

variable {entries : List Ini.Entry} {e : Ini.Entry} {value path text : String} {s : FileStore}

/-- An entry for the switch: its section has exactly this name, and its key is spelled in any
case. -/
def IsSwitch (e : Ini.Entry) : Prop :=
  e.heading = some "autorebuild" ∧ e.key.toList.map Text.lowerAscii = "enabled".toList

instance : DecidablePred IsSwitch := fun _ => inferInstanceAs (Decidable (_ ∧ _))

/-- The last entry for the switch. -/
def IsLastSwitch (entries : List Ini.Entry) (e : Ini.Entry) : Prop :=
  IsSwitch e ∧ ∃ before after, entries = before ++ e :: after ∧ ∀ x ∈ after, ¬ IsSwitch x

/-- The words for yes. -/
def yesWords : List String := ["1", "yes", "true", "on"]

/-- The words for no. -/
def noWords : List String := ["0", "no", "false", "off"]

/-- A value without blanks around it and in small letters. -/
def spelling (value : String) : String :=
  String.ofList ((Text.trim value.toList).map Text.lowerAscii)

/-! ## The value that counts -/

/-- The last entry that is selected by a test is found from the end. -/
theorem isLastSwitch_iff :
    IsLastSwitch entries e ↔ (entries.filter fun x => IsSwitch x).getLast? = some e := by
  -- The last one of a list is the first one of the list in reverse.
  rw [List.getLast?_filter, List.find?_eq_some_iff_append]
  unfold IsLastSwitch
  simp only [decide_eq_true_eq, Bool.not_eq_true', decide_eq_false_iff_not]
  refine and_congr_right fun _ => ⟨?_, ?_⟩
  · rintro ⟨before, after, rfl, hafter⟩
    refine ⟨after.reverse, before.reverse, by simp, fun x hx => ?_⟩
    exact hafter x (List.mem_reverse.mp hx)
  · rintro ⟨later, earlier, hreverse, hlater⟩
    refine ⟨earlier.reverse, later.reverse, ?_, fun x hx => hlater x (List.mem_reverse.mp hx)⟩
    rw [← List.reverse_reverse entries, hreverse]
    simp

theorem lastValue?_switch (entries : List Ini.Entry) :
    Ini.lastValue? "autorebuild" "enabled" entries =
      ((entries.filter fun x => IsSwitch x).getLast?).map Ini.Entry.value :=
  rfl

/-- The value that counts is that of the last entry for the switch. -/
theorem lastValue?_switch_eq_some_iff :
    Ini.lastValue? "autorebuild" "enabled" entries = some value ↔
      ∃ e, IsLastSwitch entries e ∧ e.value = value := by
  simp only [lastValue?_switch, Option.map_eq_some_iff, isLastSwitch_iff]

theorem lastValue?_switch_eq_none_iff :
    Ini.lastValue? "autorebuild" "enabled" entries = none ↔ ∀ e ∈ entries, ¬ IsSwitch e := by
  simp [lastValue?_switch]

/-! ## What a value says -/

theorem boolean?_eq (value : String) :
    boolean? value =
      if spelling value ∈ yesWords then some true
      else if spelling value ∈ noWords then some false
      else none := by
  unfold boolean? spelling yesWords noWords
  simp only [List.contains_eq_mem, decide_eq_true_eq]

theorem not_mem_yesWords_of_mem_noWords {word : String} (h : word ∈ noWords) :
    word ∉ yesWords := by
  have hdisjoint : ∀ word ∈ noWords, word ∉ yesWords := by decide
  exact hdisjoint word h

/-- What settings say follows from the entries of their file. -/
theorem result_readAutorebuild_of_read (htext : s.readText path = .ok text)
    (hentries : Ini.read (Ini.withoutMark text.toList) = .ok entries) :
    (readAutorebuild path s).result =
      (boolean? (decidingValue entries)).elim
        (.error (.settingsFile path ("Not a boolean: " ++ decidingValue entries))) .ok := by
  have hread : entriesOf path s = .ok entries := by
    simp [entriesOf, htext, hentries, Except.mapError, bind, Except.bind]
  rw [result_readAutorebuild, if_pos (FileStore.holds_of_readText htext), hread]
  simp only [Except.bind, autorebuild_overlay_defaults]
  cases boolean? (decidingValue entries) with
  | none => rfl
  | some enabled => rfl

end Settings

namespace Configuration

variable {options : Options} {s s' : FileStore} {entries entries' : List Ini.Entry}
  {text text' : String} {enabled : Bool}

/-- Reading a configuration goes on with the container file, whether images are rebuilt on
their own being settled. -/
structure GoesOnWith (options : Options) (s : FileStore) (enabled : Bool) : Prop where
  result : (load options s).result =
    (readContainer options.containerPath s).result.bind (ofParts options enabled)
  isAutorebuildEnabled : ∀ c, (load options s).result = .ok c → c.isAutorebuildEnabled = enabled

/-- Two lists of entries with the same value for the switch, if any. -/
def SameSwitch (entries entries' : List Ini.Entry) : Prop :=
  ∀ value, (∃ e, Settings.IsLastSwitch entries e ∧ e.value = value) ↔
    ∃ e, Settings.IsLastSwitch entries' e ∧ e.value = value

theorem goesOnWith_of_readAutorebuild
    (h : (Settings.readAutorebuild options.settingsPath s).result = .ok enabled) :
    GoesOnWith options s enabled := by
  have hresult : (load options s).result =
      (readContainer options.containerPath s).result.bind (ofParts options enabled) := by
    rw [result_load, h]
    rfl
  refine ⟨hresult, fun c hc => ?_⟩
  rw [hresult] at hc
  cases hcontainer : (readContainer options.containerPath s).result with
  | error e =>
      rw [hcontainer] at hc
      cases hc
  | ok container =>
      rw [hcontainer] at hc
      obtain ⟨modules, -, rfl⟩ := ofParts_eq_ok_iff.mp hc
      rfl

theorem SameSwitch.decidingValue_eq (h : SameSwitch entries entries') :
    Settings.decidingValue entries' = Settings.decidingValue entries := by
  have hsame : Ini.lastValue? "autorebuild" "enabled" entries' =
      Ini.lastValue? "autorebuild" "enabled" entries := by
    refine Option.ext fun value => ?_
    rw [Settings.lastValue?_switch_eq_some_iff, Settings.lastValue?_switch_eq_some_iff]
    exact (h value).symm
  unfold Settings.decidingValue
  rw [hsame]

/-- **Of a settings file only the last entry for the switch counts.**  Without one images are
not rebuilt on their own; its value says so or the contrary, or it is the reason for which the
configuration cannot be read.  All other entries may be exchanged for any others. -/
theorem load_heeds_last_switch (htext : s.readText options.settingsPath = .ok text)
    (hentries : Ini.read (Ini.withoutMark text.toList) = .ok entries) :
    ((∀ e ∈ entries, ¬ Settings.IsSwitch e) → GoesOnWith options s false) ∧
    (∀ e, Settings.IsLastSwitch entries e →
      (Settings.spelling e.value ∈ Settings.yesWords → GoesOnWith options s true) ∧
      (Settings.spelling e.value ∈ Settings.noWords → GoesOnWith options s false) ∧
      (Settings.spelling e.value ∉ Settings.yesWords →
        Settings.spelling e.value ∉ Settings.noWords →
        (load options s).result =
          .error (.settingsFile options.settingsPath ("Not a boolean: " ++ e.value)))) ∧
    (∀ s' text' entries', s'.readText options.settingsPath = .ok text' →
      Ini.read (Ini.withoutMark text'.toList) = .ok entries' →
      s'.find options.containerPath = s.find options.containerPath →
      SameSwitch entries entries' → (load options s').result = (load options s).result) := by
  have hsettings := Settings.result_readAutorebuild_of_read htext hentries
  refine ⟨fun hnone => ?_, fun e he => ?_, ?_⟩
  · have hvalue : Settings.decidingValue entries = "false" := by
      rw [Settings.decidingValue, Settings.lastValue?_switch_eq_none_iff.mpr hnone]
      rfl
    rw [hvalue] at hsettings
    exact goesOnWith_of_readAutorebuild hsettings
  · have hvalue : Settings.decidingValue entries = e.value := by
      rw [Settings.decidingValue, Settings.lastValue?_switch_eq_some_iff.mpr ⟨e, he, rfl⟩]
      rfl
    rw [hvalue, Settings.boolean?_eq] at hsettings
    refine ⟨fun hyes => ?_, fun hno => ?_, fun hyes hno => ?_⟩
    · rw [if_pos hyes] at hsettings
      exact goesOnWith_of_readAutorebuild hsettings
    · rw [if_neg (Settings.not_mem_yesWords_of_mem_noWords hno), if_pos hno] at hsettings
      exact goesOnWith_of_readAutorebuild hsettings
    · rw [if_neg hyes, if_neg hno] at hsettings
      rw [result_load, hsettings]
      rfl
  · intro s' text' entries' htext' hentries' hcontainer hsame
    have hsettings' := Settings.result_readAutorebuild_of_read htext' hentries'
    rw [result_load, result_load, hsettings, hsettings', hsame.decidingValue_eq,
      readContainer_congr hcontainer]

/-- A repository with nothing but a settings file. -/
def settingsStore (text : String) : FileStore where
  workingDirectory := []
  entries := [([".osbs-repo-config"], .text text)]

/-- Settings with other keys and sections around the switch, which is set twice. -/
def crowdedSettings : String :=
  "enabled = maybe\n[Autorebuild]\nenabled = x\n[autorebuild]\nenabled = maybe\n" ++
    "ENABLED : On \n[other]\nenabled=0\n[ autorebuild ]\nfoo=1\n"

def crowdedEntries : List Ini.Entry :=
  [⟨none, "enabled", "maybe"⟩, ⟨some "Autorebuild", "enabled", "x"⟩,
    ⟨some "autorebuild", "enabled", "maybe"⟩, ⟨some "autorebuild", "ENABLED", "On"⟩,
    ⟨some "other", "enabled", "0"⟩, ⟨some "autorebuild", "foo", "1"⟩]

theorem read_crowdedSettings :
    Ini.read (Ini.withoutMark crowdedSettings.toList) = .ok crowdedEntries := by
  cbv

theorem isLastSwitch_crowdedEntries :
    Settings.IsLastSwitch crowdedEntries ⟨some "autorebuild", "ENABLED", "On"⟩ := by
  refine ⟨by decide, crowdedEntries.take 3, crowdedEntries.drop 4, rfl, ?_⟩
  decide

theorem sameSwitch_crowdedEntries :
    SameSwitch crowdedEntries [⟨some "autorebuild", "enabled", "On"⟩] := by
  intro value
  -- In this form both sides can be computed.
  rw [← Settings.lastValue?_switch_eq_some_iff, ← Settings.lastValue?_switch_eq_some_iff]
  rfl

/-- Among many entries the last one for the switch is heeded, and the others are as good as
absent. -/
theorem load_heeds_last_switch_crowded :
    Settings.IsLastSwitch crowdedEntries ⟨some "autorebuild", "ENABLED", "On"⟩ ∧
      (load {} (settingsStore "[autorebuild]\nenabled=On")).result =
        (load {} (settingsStore crowdedSettings)).result ∧
      ∃ c, (load {} (settingsStore crowdedSettings)).result = .ok c ∧
        c.isAutorebuildEnabled = true := by
  have hread : Ini.read (Ini.withoutMark "[autorebuild]\nenabled=On".toList) =
      .ok [⟨some "autorebuild", "enabled", "On"⟩] := by
    cbv
  obtain ⟨-, hlast, hother⟩ :=
    @load_heeds_last_switch {} (settingsStore crowdedSettings) _ _ rfl read_crowdedSettings
  have hyes := (hlast _ isLastSwitch_crowdedEntries).1 (by decide)
  refine ⟨isLastSwitch_crowdedEntries, ?_, ?_⟩
  · exact hother _ _ _ rfl hread rfl sameSwitch_crowdedEntries
  · have hparts : ∃ c, ofParts {} true (.object []) = .ok c := ⟨_, rfl⟩
    obtain ⟨c, hc⟩ := hparts
    have hload : (load {} (settingsStore crowdedSettings)).result = .ok c := hyes.result.trans hc
    exact ⟨c, hload, hyes.isAutorebuildEnabled c hload⟩

end Configuration

end ImageBuild
