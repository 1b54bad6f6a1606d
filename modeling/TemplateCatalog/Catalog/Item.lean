import TemplateCatalog.Catalog.TemplateSet
import TemplateCatalog.Item.Document
import TemplateCatalog.Item.Schema
import TemplateCatalog.Path

/-!
# Catalog items

The items that a catalog offers, and what it takes to render them: arguments that fit the schema,
once the defaults have been filled in, and a template that gets along with them.
-/

namespace TemplateCatalog

/-- An item that a catalog offers. -/
structure CatalogItem where
  /-- What the item is. -/
  definition : Item.Definition
  /-- Its classification. -/
  profile : Item.Profile
  /-- The document that defines it. -/
  source : Location
  deriving Inhabited

/-- Why an item was not rendered. -/
inductive RenderFault where
  /-- There is no such item. -/
  | notFound (id : String)
  /-- The registry has withdrawn the item. -/
  | disabled (id : String)
  /-- The arguments do not fit the schema. -/
  | invalidArguments (id : String) (faults : List Item.Arguments.Fault)
  /-- The template failed. -/
  | template (id : String) (fault : Template.Fault)

/-- The message about an item that was not rendered. -/
def RenderFault.message : RenderFault → String
  | .notFound id => "Template not found: " ++ id
  | .disabled id => "Template '" ++ id ++ "' is disabled by the registry and cannot be rendered"
  | .invalidArguments id faults =>
    "Invalid arguments for template '" ++ id ++ "':\n  " ++
      "\n  ".intercalate (faults.map Item.Arguments.Fault.message)
  | .template id _ => "Failed to render template '" ++ id ++ "'"

namespace CatalogItem

/-- The id of the item. -/
def id (item : CatalogItem) : String :=
  item.definition.id

/-- The schema of the item's arguments. -/
def schema (item : CatalogItem) : Json.Value :=
  item.definition.arguments.schema

/-- Render the item from the templates of its generation. The defaults of arguments that were left
out are filled in before the arguments are checked against the schema. -/
def render (library : Template.Library) (arguments : Fields Json.Value) (item : CatalogItem) :
    Except RenderFault String :=
  let context := item.definition.arguments.withDefaults arguments
  match Json.Schema.violations item.schema (.object context) with
  | [] =>
    match library.render (itemTemplateName item.id) context with
    | .ok text => .ok text
    | .error fault => .error (.template item.id fault)
  | faults => .error (.invalidArguments item.id faults)

/-- The item as a printable record. -/
def tree (item : CatalogItem) : Json.Tree :=
  .record [
    ("definition", item.definition.tree),
    ("runtime", item.profile.tree),
    ("argument_schema", .ofValue item.schema),
    ("source_path", .string item.source.text)]

end CatalogItem

end TemplateCatalog
