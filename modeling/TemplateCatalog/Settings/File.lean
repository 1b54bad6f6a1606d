import TemplateCatalog.Settings
import TemplateCatalog.Tree.Lookup

/-!
# Settings files

Settings from a file. A file that is not there means the defaults; one that is there and cannot be
read or understood is an error.
-/

namespace TemplateCatalog

/-- Why there are no settings. -/
inductive SettingsError where
  /-- The text does not hold settings. -/
  | malformed (text : String)
  /-- The file could not be read. -/
  | unreadable (path : Path) (cause : IoError)
  /-- The file does not hold settings. -/
  | malformedFile (path : Path) (text : String)
  deriving DecidableEq, Repr

/-- The message about settings that are not there. -/
def SettingsError.message : SettingsError → String
  | .malformed _ => Settings.malformedMessage
  | .unreadable path cause => "Failed to read config: " ++ path.text ++ ": " ++ cause.message
  | .malformedFile path _ =>
    "Failed to parse config: " ++ path.text ++ ": " ++ Settings.malformedMessage

namespace Settings

/-- The settings in a text, or the error about it. -/
def ofText (text : String) : Except SettingsError Settings :=
  match parse? text with
  | some settings => .ok settings
  | none => .error (.malformed text)

/-- The settings in the file that a path leads to. -/
def load (fs : FileSystem) (path : Path) : Except SettingsError Settings :=
  if fs.pathExists path then
    match fs.readText path with
    | .error cause => .error (.unreadable path cause)
    | .ok text =>
      match parse? text with
      | some settings => .ok settings
      | none => .error (.malformedFile path text)
  else .ok .default

end Settings

end TemplateCatalog
