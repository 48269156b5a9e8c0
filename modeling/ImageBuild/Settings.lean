import ImageBuild.Error
import ImageBuild.Files.Store
import ImageBuild.Ini.Sections
import ImageBuild.Log

/-!
# Settings of a repository

A repository may have a settings file in INI form.  It is laid over defaults, so
that the last entry for a key decides.
-/

namespace ImageBuild.Settings

/-- The name of the settings file. -/
def defaultFileName : String := ".osbs-repo-config"

/-- The settings that hold where a file does not say otherwise. -/
def defaultText : String := "[autorebuild]\nenabled = false\n"

/-- The defaults. -/
def defaults : Ini.Sections :=
  match Ini.read defaultText.toList with
  | .ok entries => Ini.Sections.empty.overlay entries
  | .error _ => .empty

/-- The truth value that a text writes, in any case and with blanks around it. -/
def boolean? (text : String) : Option Bool :=
  let word := String.ofList ((Text.trim text.toList).map Text.lowerAscii)
  if ["1", "yes", "true", "on"].contains word then some true
  else if ["0", "no", "false", "off"].contains word then some false
  else none

/-- Whether images are rebuilt on their own, as settings say; otherwise the value
that is no truth value. -/
def autorebuild (settings : Ini.Sections) : Except String Bool :=
  let value := (settings.get? "autorebuild" "enabled").getD "false"
  match boolean? value with
  | some enabled => .ok enabled
  | none => .error value

/-- The entries of the file at a path. -/
def entriesOf (path : String) (s : FileStore) : Except Error (List Ini.Entry) := do
  let text ← (s.readText path).mapError fun fault => .settingsFile path fault.text
  (Ini.read (Ini.withoutMark text.toList)).mapError fun fault => .settingsFile path fault.message

/-- Whether images are rebuilt on their own, as the file at a path says. -/
def readAutorebuild (path : String) (s : FileStore) : Logged Error Bool := do
  let entries ←
    if s.holds path then do
      Logged.note .debug .configuration s!"Loading repository config from {path}"
      entriesOf path s
    else pure []
  (autorebuild (defaults.overlay entries)).mapError fun value =>
    Error.settingsFile path s!"Not a boolean: {value}"

end ImageBuild.Settings
