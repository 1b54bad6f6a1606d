import TemplateCatalog.Json.Reader
import TemplateCatalog.Yaml.Reader

/-!
# Reading source documents

Source documents in either notation.
-/

namespace TemplateCatalog.Source

/-- The document that a text holds in the given notation. -/
def document? : Format → String → Option Document
  | .yaml, text => Yaml.document? text
  | .json, text => Json.document? text

/-- Read a record from a text in the given notation. -/
def read? {α : Type} (format : Format) (decode : Cursor → Decode α) (text : String) : Option α :=
  (document? format text).bind (·.decode decode)

end TemplateCatalog.Source
