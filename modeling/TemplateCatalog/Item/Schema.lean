import TemplateCatalog.Item.Argument
import TemplateCatalog.Json.Schema
import TemplateCatalog.Url.Reference

/-!
# Argument schemas

The JSON Schema object that describes the arguments of an item. Argument objects are checked against
it once the defaults have been filled in, so an argument that has a default is never required.

A schema names itself and its parts by references, in fields called `$id`. The values of defaults
are parts of the schema too, so a default with such a field is fit for use only if the reference
can be resolved.
-/

namespace TemplateCatalog.Item

/-- The argument has to be supplied. -/
def Argument.isDemanded (argument : Argument) : Bool :=
  argument.required && argument.default.isNone

namespace Arguments

/-- The schema of one argument. -/
def property (argument : Argument) : Json.Value :=
  .ofPairs <|
    [("type", .string argument.kind.name)] ++
    (argument.description.map fun text => ("description", Json.Value.string text)).toList ++
    (argument.default.map fun value => ("default", value)).toList

/-- The names of the arguments that have to be supplied. -/
def demanded (arguments : Arguments) : List String :=
  (arguments.filter (·.2.isDemanded)).map Prod.fst

/-- The schema of the arguments. -/
def schema (arguments : Arguments) : Json.Value :=
  .ofPairs [
    ("type", .string "object"),
    ("properties", .object (Fields.mapValues property arguments)),
    ("required", .strings arguments.demanded)]

/-- The place that the references of a schema are resolved from. -/
def origin : Url.Base :=
  ⟨"json-schema", true⟩

/-- The field holds values that an argument is compared with, not parts of a schema. -/
def holdsValues (name : String) : Bool :=
  name == "enum" || name == "const"

mutual

/-- Resolve the references by which the parts of a schema are named. -/
def checkIds (base : Url.Base) : Json.Value → Except Url.Fault Unit
  | .object fields =>
    match Json.Value.field? "$id" (.object fields) with
    | some (.string reference) =>
      match base.resolve reference with
      | .ok found => checkFieldIds found fields
      | .error fault => .error fault
    | _ => checkFieldIds base fields
  | .array items => checkItemIds base items
  | _ => .ok ()

/-- Resolve the references in a list of parts. -/
def checkItemIds (base : Url.Base) : List Json.Value → Except Url.Fault Unit
  | [] => .ok ()
  | item :: items =>
    match checkIds base item with
    | .ok () => checkItemIds base items
    | .error fault => .error fault

/-- Resolve the references in the fields of a part. -/
def checkFieldIds (base : Url.Base) : List (String × Json.Value) → Except Url.Fault Unit
  | [] => .ok ()
  | (name, value) :: fields =>
    if holdsValues name then checkFieldIds base fields
    else
      match checkIds base value with
      | .ok () => checkFieldIds base fields
      | .error fault => .error fault

end

/-- The schema of the arguments can be used. -/
def check (arguments : Arguments) : Except Url.Fault Unit :=
  checkIds origin arguments.schema

/-- What is wrong with an argument object: where it goes against the schema. -/
abbrev Fault : Type :=
  Json.Schema.Violation

/-- The message about a fault. -/
def Fault.message (fault : Fault) : String :=
  Json.Schema.Violation.message fault

/-- The argument object with the defaults of the arguments that it leaves out. -/
def withDefaults (arguments : Arguments) (supplied : Fields Json.Value) : Fields Json.Value :=
  arguments.foldl
    (fun context entry =>
      match entry.2.default with
      | some value => context.insertNew entry.1 value
      | none => context)
    supplied

end Arguments

end TemplateCatalog.Item
