import TemplateCatalog.Text.LetterCase

/-!
# Source formats

The two notations in which documents and registries are written, and how the extension of a file
name selects one of them.
-/

namespace TemplateCatalog

/-- The notation of a source file. -/
inductive Format where
  /-- Indented or bracketed YAML. -/
  | yaml
  /-- JSON. -/
  | json
  deriving DecidableEq, Repr, Inhabited

namespace Format

/-- The name of the format. -/
def name : Format → String
  | .yaml => "yaml"
  | .json => "json"

/-- The name of the format in messages. -/
def title : Format → String
  | .yaml => "YAML"
  | .json => "JSON"

/-- The format of files with the given extension, whatever its letter case. -/
def ofExtension? (extension : String) : Option Format :=
  match Text.asciiLower extension with
  | "yaml" | "yml" => some .yaml
  | "json" => some .json
  | _ => none

/-- A format's own name is one of its extensions. -/
theorem ofExtension?_name (format : Format) : ofExtension? format.name = some format := by
  cases format <;> decide

end Format

end TemplateCatalog
