import TemplateCatalog.Registry
import TemplateCatalog.Tree.Lookup

/-!
# Registry files

The registry from a file, in the notation that the extension of its name tells.
-/

namespace TemplateCatalog

/-- Why a file gives no registry. -/
inductive RegistryFault where
  /-- The file could not be read. -/
  | unreadable (location : Location) (cause : IoError)
  /-- The text holds no registry. -/
  | malformed (location : Location) (format : Format) (text : String)
  deriving DecidableEq, Repr

/-- The message about a file that gives no registry. -/
def RegistryFault.message : RegistryFault → String
  | .unreadable location cause =>
    "Failed to read registry: " ++ location.text ++ ": " ++ cause.message
  | .malformed location format _ =>
    "Failed to parse registry: " ++ location.text ++ ": " ++ Registry.malformedMessage format

/-- The text that is to blame for a file that gives no registry. -/
def RegistryFault.text? : RegistryFault → Option String
  | .unreadable .. => none
  | .malformed _ _ text => some text

/-- The registry in the file at a location. -/
def Registry.load (fs : FileSystem) (location : Location) : Except RegistryFault Registry :=
  match fs.readText location.path with
  | .error cause => .error (.unreadable location cause)
  | .ok text =>
    let format := (location.extension?.bind Format.ofExtension?).getD .yaml
    match Registry.parse? format text with
    | some registry => .ok registry
    | none => .error (.malformed location format text)

end TemplateCatalog
