import Mathlib
import ImageBuild.Proofs.Document

/-!
# Failures and the log

Which failures of reading a document are logged.  What is wrong with a schema or with a value
is, and nothing is logged as an error without a failure.  But a file that cannot be read as a
text and a text that is no YAML end the reading without a record.

* `logsFailures_unless_unreadable`: for which documents a failure is not logged.
* `unreadable_document_unlogged`: two such documents.
-/

namespace ImageBuild

namespace Logged

variable {ε α : Type} {unlogged other : Prop} {x : Logged ε α}

/-- An error was logged on the way to an outcome. -/
def NotesError (x : Logged ε α) : Prop :=
  ∃ r ∈ x.records, r.level = .error

/-- Errors are logged on the way to a failure and not on the way to a success, except that
under a condition there is a failure without one. -/
structure LogsFailuresUnless (unlogged : Prop) (x : Logged ε α) : Prop where
  ok : ∀ a, x.result = .ok a → ¬ x.NotesError
  error : ∀ e, x.result = .error e → (x.NotesError ↔ ¬ unlogged)
  fails : unlogged → ∃ e, x.result = .error e

theorem LogsFailuresUnless.congr (h : unlogged ↔ other) (hx : LogsFailuresUnless unlogged x) :
    LogsFailuresUnless other x := by
  rwa [← propext h]

theorem logsFailuresUnless_pure (a : α) :
    LogsFailuresUnless False (pure a : Logged ε α) where
  ok := by
    rintro - - ⟨r, hr, -⟩
    cases hr
  error := by
    intro e he
    cases he
  fails := False.elim

/-- A failure that records of errors lead to. -/
theorem logsFailuresUnless_failure {records : List LogRecord} (e : ε)
    (h : ∃ r ∈ records, r.level = .error) :
    LogsFailuresUnless False (⟨records, .error e⟩ : Logged ε α) where
  ok := by
    intro a ha
    cases ha
  error := fun _ _ => ⟨fun _ => not_false, fun _ => h⟩
  fails := False.elim

/-- A failure that no record leads to. -/
theorem logsFailuresUnless_silence (e : ε) :
    LogsFailuresUnless True (⟨[], .error e⟩ : Logged ε α) where
  ok := by
    intro a ha
    cases ha
  error := by
    intro e' _
    constructor
    · rintro ⟨r, hr, -⟩
      cases hr
    · exact fun h => absurd trivial h
  fails := fun _ => ⟨e, rfl⟩

end Logged

namespace Document

open Logged (LogsFailuresUnless logsFailuresUnless_failure logsFailuresUnless_pure
  logsFailuresUnless_silence)

variable {yaml schemaName schemaText : String}

/-- The text is no YAML, and the schema has nothing against it before it is read. -/
def IsMalformed (yaml schemaText : String) : Prop :=
  (∃ schema, Json.read schemaText = .ok schema) ∧ ∃ fault, Yaml.read yaml = .error fault

theorem logsFailures_check (v : Validator) (value : Json) :
    LogsFailuresUnless False (check v value) := by
  rcases check_cases v value with ⟨-, hcheck⟩ | ⟨hsome, hcheck⟩
  · rw [hcheck]
    exact logsFailuresUnless_pure value
  · rw [hcheck]
    -- There is a violation, and each has its record.
    obtain ⟨first, hfirst⟩ := List.exists_mem_of_ne_nil _ hsome
    exact logsFailuresUnless_failure _ ⟨record first, List.mem_map_of_mem hfirst, rfl⟩

theorem logsFailures_readWith (yaml schemaName schemaText : String) :
    LogsFailuresUnless (IsMalformed yaml schemaText) (readWith yaml schemaName schemaText) := by
  rcases readWith_cases yaml schemaName schemaText with
    ⟨e, hschema, hread⟩ | ⟨schema, hschema, ⟨fault, hyaml, hread⟩ | ⟨value, hyaml, hread⟩⟩
  · rw [hread]
    refine (logsFailuresUnless_failure _ ⟨_, List.mem_singleton_self _, rfl⟩).congr ?_
    simp [IsMalformed, hschema]
  · rw [hread]
    refine (logsFailuresUnless_silence _).congr ?_
    simp [IsMalformed, hschema, hyaml]
  · have hwell : False ↔ IsMalformed yaml schemaText := by simp [IsMalformed, hyaml]
    rcases hread with ⟨fault, -, hread⟩ | ⟨v, -, hread⟩
    · rw [hread]
      exact (logsFailuresUnless_failure _ ⟨_, List.mem_singleton_self _, rfl⟩).congr hwell
    · rw [hread]
      exact (logsFailures_check v value).congr hwell

theorem logsFailures_read (yaml schemaName : String) :
    LogsFailuresUnless (∃ text, schemaTexts.lookup schemaName = some text ∧ IsMalformed yaml text)
      (read yaml schemaName) := by
  cases hlookup : schemaTexts.lookup schemaName with
  | none =>
      have hread : read yaml schemaName =
          ⟨[⟨.error, .schema, "unable to extract JSON schema, cannot validate"⟩],
            .error (.schemaUnavailable schemaName "no such bundled resource")⟩ := by
        rw [read, schemaText, hlookup]
        rfl
      rw [hread]
      refine (logsFailuresUnless_failure _ ⟨_, List.mem_singleton_self _, rfl⟩).congr ?_
      simp
  | some text =>
      have hread : read yaml schemaName = readWith yaml schemaName text := by
        rw [read, schemaText, hlookup]
        rfl
      rw [hread]
      refine (logsFailures_readWith yaml schemaName text).congr ?_
      simp

theorem logsFailures_ofFile (path schemaName : String) (s : FileStore) :
    LogsFailuresUnless ((∃ fault, s.readText path = .error fault) ∨
      ∃ yaml, s.readText path = .ok yaml ∧
        ∃ text, schemaTexts.lookup schemaName = some text ∧ IsMalformed yaml text)
      (ofFile path schemaName s) := by
  cases hfile : s.readText path with
  | error fault =>
      have hread : ofFile path schemaName s = ⟨[], .error (.file fault)⟩ := by
        rw [ofFile, hfile]
        rfl
      rw [hread]
      refine (logsFailuresUnless_silence _).congr ?_
      simp
  | ok yaml =>
      have hread : ofFile path schemaName s = read yaml schemaName := by
        rw [ofFile, hfile]
        rfl
      rw [hread]
      refine (logsFailures_read yaml schemaName).congr ?_
      simp

/-- **Every failure of reading a document is logged but those of its text.**  Nothing else is
logged as an error. -/
theorem logsFailures_unless_unreadable (path yaml schemaName schemaText : String)
    (s : FileStore) :
    LogsFailuresUnless (IsMalformed yaml schemaText) (readWith yaml schemaName schemaText) ∧
    LogsFailuresUnless
      (∃ text, schemaTexts.lookup schemaName = some text ∧ IsMalformed yaml text)
      (read yaml schemaName) ∧
    LogsFailuresUnless
      ((∃ fault, s.readText path = .error fault) ∨ ∃ yaml, s.readText path = .ok yaml ∧
        ∃ text, schemaTexts.lookup schemaName = some text ∧ IsMalformed yaml text)
      (ofFile path schemaName s) :=
  ⟨logsFailures_readWith yaml schemaName schemaText, logsFailures_read yaml schemaName,
    logsFailures_ofFile path schemaName s⟩

set_option maxRecDepth 8000 in
theorem exists_fault_unendedLine : ∃ fault, Yaml.read "hallo: 1\nbye" = .error fault := by
  have hread : (Yaml.read "hallo: 1\nbye").toBool = false := by cbv
  cases hfault : Yaml.read "hallo: 1\nbye" with
  | error fault => exact ⟨fault, rfl⟩
  | ok value =>
      rw [hfault] at hread
      cases hread

/-- A line that is no YAML, and a file that is not there: both fail, and nothing is logged. -/
theorem unreadable_document_unlogged :
    (∃ fault, read "hallo: 1\nbye" containerSchema = ⟨[], .error (.yaml fault)⟩) ∧
      ofFile "container.yaml" containerSchema ⟨[], []⟩ = ⟨[], .error (.file .notFound)⟩ := by
  constructor
  · obtain ⟨fault, hfault⟩ := exists_fault_unendedLine
    refine ⟨fault, ?_⟩
    rw [read_container, readWith, Schema.read_containerText, hfault]
    rfl
  · rfl

end Document

end ImageBuild
