import TemplateCatalog.Item.Argument
import TemplateCatalog.Item.Metadata
import TemplateCatalog.Source.Reader

/-!
# Item documents

A source document as far as an item cares about it, and the item it defines. Only the argument
declarations are read strictly; all else is kept optional or raw, so that a bad field becomes a
classification and not a failure to read.
-/

namespace TemplateCatalog.Item

/-- An item document as it was read. -/
structure Document where
  /-- The id, as it is written. -/
  id : Option String
  /-- The title. -/
  title : Option String
  /-- What the item is for. -/
  description : Option String
  /-- The argument declarations. -/
  arguments : Arguments
  /-- The template text. -/
  template : Option String
  /-- The metadata block, as it stands. -/
  metadata : Option Json.Value
  deriving Inhabited

/-- What an item is, apart from its classification. -/
structure Definition where
  /-- The id of the item. -/
  id : String
  /-- The title of the item. -/
  title : String
  /-- What the item is for. -/
  description : Option String
  /-- The argument declarations. -/
  arguments : Arguments
  /-- The template text. -/
  template : String
  deriving Inhabited

/-- Why a document defines no item. -/
inductive Defect where
  /-- There is no id. -/
  | missingId
  /-- There is no template. -/
  | missingTemplate (id : String)
  deriving DecidableEq, Repr

/-- The message about a defect. -/
def Defect.message : Defect → String
  | .missingId => "Template document has no 'id'"
  | .missingTemplate id => "Template document '" ++ id ++ "' has no 'template' body"

/-- An item with its classification. -/
structure Validated where
  /-- What the item is. -/
  definition : Definition
  /-- What its metadata amounts to. -/
  judgement : Judgement

namespace Document

/-- The field that a name in a document stands for: a title may also be called a name. -/
def canonicalName (name : String) : String :=
  if name = "name" then "title" else name

/-- Read the document under the cursor. -/
def decode (cursor : Source.Cursor) : Source.Decode Document := do
  let found ← cursor.record
    ["id", "title", "description", "arguments", "template", "metadata"] canonicalName
  return {
    id := ← Source.Cursor.field found "id" none (·.optional (·.text))
    title := ← Source.Cursor.field found "title" none (·.optional (·.text))
    description := ← Source.Cursor.field found "description" none (·.optional (·.text))
    arguments := ← Source.Cursor.field found "arguments" [] Arguments.decode
    template := ← Source.Cursor.field found "template" none (·.optional (·.text))
    metadata := ← Source.Cursor.field found "metadata" none (·.optional (·.value)) }

/-- The document that a text holds. -/
def parse? (format : Format) (text : String) : Option Document :=
  Source.read? format decode text

/-- The message about a text that holds no document. The words of the parser come after it, which
depend on the text alone. -/
def malformedMessage (format : Format) : String :=
  "Invalid template document " ++ format.title

/-- The id without the blank space around it, if anything is left. -/
def itemId? (document : Document) : Option String :=
  match document.id.map Text.trim with
  | some id => if id = "" then none else some id
  | none => none

/-- The title, or the id in place of a title that is blank. -/
def itemTitle (document : Document) (id : String) : String :=
  match document.title with
  | some title => if Text.isBlankText title then id else title
  | none => id

/-- The item that the document defines. -/
def validate (document : Document) : Except Defect Validated :=
  match document.itemId? with
  | none => .error .missingId
  | some id =>
    match document.template with
    | none => .error (.missingTemplate id)
    | some template =>
      let title := document.itemTitle id
      .ok {
        definition :=
          { id, title, description := document.description, arguments := document.arguments,
            template }
        judgement := judge id title document.metadata }

end Document

/-- The definition as a printable record. -/
def Definition.tree (definition : Definition) : Json.Tree :=
  .record <|
    [("id", .string definition.id), ("title", .string definition.title)] ++
    (definition.description.map fun text => ("description", Json.Tree.string text)).toList ++
    [("arguments", definition.arguments.tree), ("template", .string definition.template)]

end TemplateCatalog.Item
