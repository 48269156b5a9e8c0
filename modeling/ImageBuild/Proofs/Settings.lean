import ImageBuild.Proofs.Log
import ImageBuild.Settings

/-!
# When settings can be used

A settings file need not be there.  One that is there has to be INI text, and the
value that decides whether images are rebuilt has to be a word for yes or no;
`IsUnusable` is the contrary, and the only reason for which reading the settings
fails.

* `Sections.get?_overlay`: of entries that are laid over settings the last one for a
  key decides.
* `autorebuild_overlay_defaults`: what the entries of a file say.
* `result_readAutorebuild_cases`: when reading the settings fails.
-/

namespace ImageBuild

namespace Ini

/-- The value of the last entry for a key of a section.  Keys are told apart
without regard to the case of ASCII letters. -/
def lastValue? (name key : String) (entries : List Entry) : Option String :=
  let matching := entries.filter fun e =>
    e.heading = some name ∧ e.key.toList.map Text.lowerAscii = key.toList
  matching.getLast?.map Entry.value

/-! ## Settings with entries laid over them -/

/-- Later entries go before earlier ones. -/
theorem lastValue?_append (name key : String) (earlier later : List Entry) :
    lastValue? name key (earlier ++ later) =
      (lastValue? name key later).or (lastValue? name key earlier) := by
  unfold lastValue?
  simp only [List.filter_append, List.getLast?_append, Option.map_or]

theorem lastValue?_singleton (name key : String) (e : Entry) :
    lastValue? name key [e] =
      if e.heading = some name ∧ e.key.toList.map Text.lowerAscii = key.toList
        then some e.value else none := by
  unfold lastValue?
  split
  · rename_i hmatches
    rw [List.filter_cons_of_pos (by simpa using hmatches)]
    rfl
  · rename_i hother
    rw [List.filter_cons_of_neg (by simpa using hother)]
    rfl

namespace Sections

theorem get?_set (name key other value : String) (heading : Option String) (s : Sections) :
    (s.set heading key value).get? name other =
      if heading = some name ∧ key = other then some value else s.get? name other := by
  unfold get?
  cases heading with
  | none => simp [set]
  | some opened =>
      rw [set, OrderedMap.get?_insert]
      by_cases hname : name = opened
      · subst hname
        rw [if_pos rfl, Option.bind_some, OrderedMap.get?_insert]
        by_cases hkey : other = key
        · simp [hkey]
        · cases s.named.get? name with
          | none => simp [hkey, Ne.symm hkey]
          | some values => simp [hkey, Ne.symm hkey]
      · simp [hname, Ne.symm hname]

/-- **The last entry for a key decides**, and where there is none the settings stay. -/
theorem get?_overlay (name key : String) (entries : List Entry) (s : Sections) :
    (s.overlay entries).get? name key = (lastValue? name key entries).or (s.get? name key) := by
  -- Entries are laid over one by one, so the induction changes the settings.
  induction entries generalizing s with
  | nil => rfl
  | cons e rest ih =>
      have hkey : String.ofList (e.key.toList.map Text.lowerAscii) = key ↔
          e.key.toList.map Text.lowerAscii = key.toList := by
        rw [← String.toList_inj, String.toList_ofList]
      rw [overlay, List.foldl_cons, ← overlay, ih, get?_set, ← List.singleton_append,
        lastValue?_append, lastValue?_singleton, Option.or_assoc]
      simp only [hkey]
      split
      · rfl
      · rfl

end Sections

end Ini

namespace Settings

variable {path : String} {s : FileStore}

/-- The words for yes and for no. -/
def booleanWords : List String :=
  ["1", "yes", "true", "on"] ++ ["0", "no", "false", "off"]

/-- A text that is one of these words, in any case and with blanks around it. -/
def IsBoolean (value : String) : Prop :=
  String.ofList ((Text.trim value.toList).map Text.lowerAscii) ∈ booleanWords

/-- The value that decides: the last one that entries give, or else no. -/
def decidingValue (entries : List Ini.Entry) : String :=
  (Ini.lastValue? "autorebuild" "enabled" entries).getD "false"

/-- A text of entries whose deciding value is no word for yes or no. -/
def IsFlawed (text : String) : Prop :=
  (∃ fault, Ini.read (Ini.withoutMark text.toList) = .error fault) ∨
    ∃ entries, Ini.read (Ini.withoutMark text.toList) = .ok entries ∧
      ¬ IsBoolean (decidingValue entries)

/-- There is something at a path, and it is no settings file: it cannot be read as a
text, or the text is flawed. -/
def IsUnusable (path : String) (s : FileStore) : Prop :=
  s.holds path = true ∧
    ((∃ fault, s.readText path = .error fault) ∨
      ∃ text, s.readText path = .ok text ∧ IsFlawed text)

/-! ## The deciding value -/

theorem exists_boolean?_iff {value : String} :
    (∃ enabled, boolean? value = some enabled) ↔ IsBoolean value := by
  unfold boolean? IsBoolean booleanWords
  simp only [List.contains_eq_mem, List.mem_append, decide_eq_true_eq]
  split
  · simp_all
  · split
    · simp_all
    · simp_all

/-- The defaults say what holds without any entry. -/
theorem getD_get?_overlay_defaults (entries : List Ini.Entry) :
    ((defaults.overlay entries).get? "autorebuild" "enabled").getD "false" =
      decidingValue entries := by
  have hdefault : defaults.get? "autorebuild" "enabled" = some "false" := rfl
  rw [Ini.Sections.get?_overlay, hdefault, decidingValue]
  cases Ini.lastValue? "autorebuild" "enabled" entries with
  | none => rfl
  | some value => rfl

/-- The value that decides says yes or no, or it is the reason for which settings are refused. -/
theorem autorebuild_overlay_defaults (entries : List Ini.Entry) :
    autorebuild (defaults.overlay entries) =
      (boolean? (decidingValue entries)).elim (.error (decidingValue entries)) .ok := by
  unfold autorebuild
  simp only [getD_get?_overlay_defaults]
  cases boolean? (decidingValue entries) with
  | none => rfl
  | some enabled => rfl

/-- Entries say yes or no, or they give a value that is neither. -/
theorem autorebuild_cases (entries : List Ini.Entry) :
    (IsBoolean (decidingValue entries) ∧
        ∃ enabled, autorebuild (defaults.overlay entries) = .ok enabled) ∨
      (¬ IsBoolean (decidingValue entries) ∧
        ∃ value, autorebuild (defaults.overlay entries) = .error value) := by
  rw [autorebuild_overlay_defaults, ← exists_boolean?_iff]
  cases boolean? (decidingValue entries) with
  | none => simp
  | some enabled => simp

/-! ## Reading settings -/

theorem result_readAutorebuild (path : String) (s : FileStore) :
    (readAutorebuild path s).result =
      (if s.holds path = true then entriesOf path s else .ok []).bind fun entries =>
        (autorebuild (defaults.overlay entries)).mapError fun value =>
          .settingsFile path s!"Not a boolean: {value}" := by
  unfold readAutorebuild
  by_cases hholds : s.holds path = true
  · simp only [hholds, if_true, Logged.result_bind, Logged.result_liftM]
    rfl
  · simp only [hholds, Bool.false_eq_true, if_false, Logged.result_bind, Logged.result_liftM]
    rfl

/-- **Reading the settings fails on a file that is unusable, and on nothing else.**  The
error names the file. -/
theorem result_readAutorebuild_cases (path : String) (s : FileStore) :
    (IsUnusable path s ∧
        ∃ reason, (readAutorebuild path s).result = .error (.settingsFile path reason)) ∨
      (¬ IsUnusable path s ∧ ∃ enabled, (readAutorebuild path s).result = .ok enabled) := by
  rw [result_readAutorebuild]
  by_cases hholds : s.holds path = true
  · rw [if_pos hholds]
    unfold IsUnusable IsFlawed entriesOf
    cases hread : s.readText path with
    | error fault => simp [hholds, Except.mapError, Except.bind, bind]
    | ok text =>
        cases hini : Ini.read (Ini.withoutMark text.toList) with
        | error fault => simp [hholds, hini, Except.mapError, Except.bind, bind]
        | ok entries =>
            rcases autorebuild_cases entries with ⟨hboolean, enabled, heq⟩ | ⟨hboolean, value, heq⟩
            · simp [hholds, hini, hboolean, heq, Except.mapError, Except.bind, bind]
            · simp [hholds, hini, hboolean, heq, Except.mapError, Except.bind, bind]
  · rw [if_neg hholds]
    right
    -- Without a file the defaults decide.
    exact ⟨fun h => hholds h.1, false, rfl⟩

end Settings

end ImageBuild
