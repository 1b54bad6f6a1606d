import TemplateCatalog.Json.Printer
import TemplateCatalog.Path

/-!
# Load reports

What went wrong while a generation was built, one entry to a problem. Errors cost a source its
place in the catalog, warnings do not. Where a parser or the template engine could not make sense of
a text, its own words about the text come after the message. They are up to the parser and the
engine, so an entry keeps the text that they are about in their place.
-/

namespace TemplateCatalog

/-- The kind of a load error. -/
inductive LoadErrorKind where
  /-- A file or directory could not be read. -/
  | io
  /-- A document could not be read as one. -/
  | parse
  /-- A document has no id. -/
  | missingId
  /-- A document has no template. -/
  | missingTemplate
  /-- The id of a document is taken. -/
  | duplicateId
  /-- A template could not be compiled. -/
  | template
  /-- The argument declarations make no schema. -/
  | schema
  deriving DecidableEq, Repr

namespace LoadErrorKind

/-- The name of the kind in reports. -/
def name : LoadErrorKind → String
  | .io => "io"
  | .parse => "parse"
  | .missingId => "missing_id"
  | .missingTemplate => "missing_template"
  | .duplicateId => "duplicate_id"
  | .template => "template"
  | .schema => "schema"

/-- The name of the kind in messages. -/
def title : LoadErrorKind → String
  | .io => "Io"
  | .parse => "Parse"
  | .missingId => "MissingId"
  | .missingTemplate => "MissingTemplate"
  | .duplicateId => "DuplicateId"
  | .template => "Template"
  | .schema => "Schema"

/-- The kinds in the order of their declaration. -/
def all : List LoadErrorKind :=
  [.io, .parse, .missingId, .missingTemplate, .duplicateId, .template, .schema]

/-- The kind with the given name. -/
def ofName? (name : String) : Option LoadErrorKind :=
  all.find? (·.name == name)

end LoadErrorKind

/-- A source that has no place in the catalog. -/
structure LoadError where
  /-- The file or directory. -/
  path : Path
  /-- The id of the item, or else the name of the file without its extension. -/
  id : String
  /-- The kind of the error. -/
  kind : LoadErrorKind
  /-- What is wrong. -/
  message : String
  /-- The text that could not be understood, if one is to blame. What its parser or the template
  engine has to say about it depends on this text alone, and on the id that a template goes by. -/
  text : Option String := none
  deriving DecidableEq, Repr

namespace LoadError

/-- The error about a file whose item may not have an id. -/
def make (path : Path) (id : Option String) (kind : LoadErrorKind) (message : String) :
    LoadError :=
  { path, id := id.getD path.stem, kind, message }

/-- The error with the text that is to blame. -/
def about (text : String) (error : LoadError) : LoadError :=
  { error with text := some text }

/-- The error on one line. -/
def display (error : LoadError) : String :=
  error.id ++ " (" ++ error.path.text ++ "): " ++ error.kind.title ++ ": " ++ error.message

/-- The error as a printable record. -/
def tree (error : LoadError) : Json.Tree :=
  .record [
    ("path", .string error.path.text),
    ("id", .string error.id),
    ("kind", .string error.kind.name),
    ("message", .string error.message)]

end LoadError

/-- A flaw that costs no source its place. -/
structure LoadWarning where
  /-- The file. -/
  path : Path
  /-- The id of the item. -/
  id : Option String
  /-- What is wrong. -/
  message : String
  /-- The text that could not be understood, if one is to blame. -/
  text : Option String := none
  deriving DecidableEq, Repr

/-- The warning as a printable record. -/
def LoadWarning.tree (warning : LoadWarning) : Json.Tree :=
  .record <|
    [("path", .string warning.path.text)] ++
    (warning.id.map fun id => ("id", Json.Tree.string id)).toList ++
    [("message", .string warning.message)]

/-- The report about a generation. -/
structure LoadReport where
  /-- The number of the generation. -/
  generation : Nat
  /-- How many items it has. -/
  compiledCount : Nat
  /-- The sources that have no place in it. -/
  errors : List LoadError
  /-- The flaws of the sources that may have one. -/
  warnings : List LoadWarning
  deriving DecidableEq, Repr

namespace LoadReport

/-- Some source has no place in the generation. -/
def hasErrors (report : LoadReport) : Bool :=
  !report.errors.isEmpty

/-- The fields of the report as a printable record. -/
def fields (report : LoadReport) : List (String × Json.Tree) :=
  [("generation", .nat report.generation),
    ("compiled_count", .nat report.compiledCount),
    ("errors", .list (report.errors.map LoadError.tree)),
    ("warnings", .list (report.warnings.map LoadWarning.tree))]

end LoadReport

end TemplateCatalog
